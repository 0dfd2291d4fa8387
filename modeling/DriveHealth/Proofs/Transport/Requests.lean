import DriveHealth.Check
import DriveHealth.ErrorLog.Read
import DriveHealth.Proofs.Conversation.Asked

/-!
What the sessions with a drive ask for. Two kinds of requests are told apart from all others: those
that read a log which is addressed by a page, and those that change a mode page. A check reads one
such log, and changes a page only of a drive that takes SCSI commands; the error log reads single
sectors of such logs, and changes nothing.
-/
namespace DriveHealth

open Program Transport

/-- A request that neither reads an addressed log nor changes a page. -/
def Request.isPlain : Request → Bool
  | .readLog _ _ _ _ _ | .logSense _ _ _ | .logSenseSize _ _ | .modeSelect _ _ _ => false
  | _ => true

/-- A request for a mode page or for sense data, or a pause between two of them. -/
def Request.isSense : Request → Bool
  | .modeSense _ _ _ _ | .requestSense _ | .pause _ => true
  | _ => false

theorem Request.isPlain_of_isSense (r : Request) (h : r.isSense = true) : r.isPlain = true := by
  cases r <;> first | rfl | cases h

variable {P : Request → Prop}

theorem asks_require {α : Type} {p : Session (Except TransportError α)} (h : Asks P p) :
    Asks P (Session.require p).run :=
  h.bind fun _ => Asks.done _

/-- What follows a step that may fail is not reached from a failure. -/
theorem asks_fallible_bind {α β : Type} {p : Session.Fallible α} {f : α → Session.Fallible β}
    (hp : Asks P p.run) (hf : ∀ a, Asks P (f a).run) : Asks P (p >>= f).run :=
  Asks.bind_except hp hf fun _ => Asks.done _

section Sense

variable (sense : ∀ r : Request, r.isSense = true → P r)
include sense

namespace Scsi

theorem ExceptionsPage.asks_read (control : PageControl) :
    Asks P (ExceptionsPage.read control) :=
  Asks.bind_except (asks_perform (sense _ rfl)) (fun _ => Asks.done _) fun _ =>
    Asks.bind_except (asks_perform (sense _ rfl)) (fun _ => Asks.done _) fun _ => Asks.done _

end Scsi

namespace Check.Scsi

theorem asks_askSense : Asks P askSense :=
  Asks.bind_except (asks_perform (sense _ rfl)) (fun _ => Asks.done _) fun _ => Asks.done _

theorem asks_wait (milliseconds : Nat) : Asks P (wait milliseconds) := by
  unfold wait
  split
  · exact Asks.done _
  · exact asks_perform (sense _ rfl)

theorem asks_askSenseAfter (milliseconds : Nat) : Asks P (askSenseAfter milliseconds) :=
  (asks_wait sense milliseconds).bind fun _ => asks_askSense sense

theorem asks_savedOr (current : DriveHealth.Scsi.ExceptionsPage) : Asks P (savedOr current) :=
  Asks.bind_except (DriveHealth.Scsi.ExceptionsPage.asks_read sense .saved)
    (fun _ => Asks.done _) fun _ => Asks.done _

end Check.Scsi
end Sense

namespace Check.Ata

theorem asks_askSct (sct : P (.sctStatus (.zeros sector))) (d : Drive) : Asks P (askSct d) := by
  unfold askSct
  split
  · exact Asks.bind_except (asks_perform sct) (fun _ => Asks.done _) fun _ => Asks.done _
  · exact Asks.done _

theorem asks_deviceStatus (status : P .returnStatus) (sct : P (.sctStatus (.zeros sector)))
    (d : Drive) : Asks P (deviceStatus d) := by
  refine (asks_perform status).bind fun r => ?_
  cases returned? r with
  | some s => exact Asks.done _
  | none => exact asks_askSct sct d

end Check.Ata

theorem Attribute.Table.asks_readThresholds
    (thresholds : P (.smartReadThresholds (.zeros pageLength))) : Asks P readThresholds :=
  Asks.bind_except (asks_perform thresholds) (fun _ => Asks.done _) fun _ => Asks.done _

section Plain

variable (plain : ∀ r : Request, r.isPlain = true → P r)
include plain

namespace Attribute.Table

theorem asks_readPages : Asks P readPages :=
  Asks.bind_except (asks_perform (plain _ rfl))
    (fun _ => (asks_readThresholds (plain _ rfl)).bind fun _ => Asks.done _) fun _ => Asks.done _

theorem asks_read (f : AtaFeatures) : Asks P (read f) := by
  unfold read
  split
  · exact asks_readPages plain
  · split
    · exact Asks.done _
    · exact Asks.done _

end Attribute.Table

namespace Check

theorem Ata.asks_checkSmart (d : Drive) : Asks P (checkSmart d) := by
  unfold checkSmart
  split
  · exact (asks_deviceStatus (plain _ rfl) (plain _ rfl) d).bind fun s =>
      Asks.bind_except (Attribute.Table.asks_read plain d.features) (fun _ => Asks.done _)
        fun _ => Asks.done _
  · exact Asks.done _

theorem Nvme.asks_check : Asks P Nvme.check :=
  Asks.bind_except (asks_perform (plain _ rfl)) (fun _ => Asks.done _) fun _ => Asks.done _

theorem Nvme.asks_readHealth : Asks P Nvme.readHealth := by
  refine Asks.bind_except (asks_perform (plain _ rfl)) (fun page => ?_) fun _ => Asks.done _
  dsimp only
  split
  · exact Asks.done _
  · exact Asks.done _

end Check

namespace ErrorLog

theorem Directory.asks_readSmart : Asks P Directory.readSmart.run :=
  asks_fallible_bind (asks_require (asks_perform (plain _ rfl))) fun _ => Asks.done _

theorem asks_comprehensiveCandidate (d : Drive) : Asks P (comprehensiveCandidate d) := by
  unfold comprehensiveCandidate
  split
  · exact Asks.bind_except (Directory.asks_readSmart plain) (fun _ => Asks.done _)
      fun _ => Asks.done _
  · exact Asks.done _

end ErrorLog
end Plain

namespace Check

section Selects

variable (sense : ∀ r : Request, r.isSense = true → P r)
  (select : ∀ form data save, P (.modeSelect form data save))

theorem asks_restore (select : ∀ form data save, P (.modeSelect form data save))
    (page : DriveHealth.Scsi.ExceptionsPage) : Asks P (DriveHealth.Scsi.Override.restore page) :=
  Asks.bind_except (asks_perform (select _ _ _)) (fun _ => Asks.done _) fun _ =>
    (asks_perform (select _ _ _)).bind fun _ => Asks.done _

theorem asks_during (select : ∀ form data save, P (.modeSelect form data save)) {α : Type}
    (current restored : DriveHealth.Scsi.ExceptionsPage) {body : Session α}
    (hbody : Asks P body) : Asks P (DriveHealth.Scsi.Override.during current restored body) :=
  Asks.bind_except ((asks_perform (select _ _ _)).bind fun _ => Asks.done _)
    (fun _ => hbody.bind fun _ => (asks_restore select restored).bind fun _ => Asks.done _)
    fun _ => Asks.done _

namespace Scsi

include sense select

theorem asks_askPage (options : Options) (current : DriveHealth.Scsi.ExceptionsPage) :
    Asks P (askPage options current) := by
  unfold askPage
  dsimp only
  split
  · exact Asks.done _
  · split
    · exact asks_askSenseAfter sense _
    · exact (asks_savedOr sense current).bind fun _ =>
        Asks.bind_except (asks_during select current _ (asks_askSenseAfter sense _))
          (fun _ => Asks.done _) fun _ => Asks.done _

end Scsi
end Selects

namespace Scsi

/-- A check, once the log has answered. -/
def afterLog (options : Options) : ExceptionsLog → Session CheckResult
  | .codes asc ascq => .done (DriveHealth.Scsi.Sense.verdict ⟨0, asc, ascq⟩)
  | .foreign _ => .done (.ofStatus .unknown)
  | .unavailable =>
    (DriveHealth.Scsi.ExceptionsPage.read .current).bind fun r =>
      match r with
      | .ok current => askPage options current
      | .error _ => .done (.ofStatus .notSupported)

theorem check_eq (options : Options) : check options = readLog.bind (afterLog options) := rfl

theorem asks_afterLog (sense : ∀ r : Request, r.isSense = true → P r)
    (select : ∀ form data save, P (.modeSelect form data save)) (options : Options)
    (log : ExceptionsLog) : Asks P (afterLog options log) := by
  cases log with
  | codes asc ascq => exact Asks.done _
  | foreign parameter => exact Asks.done _
  | unavailable =>
    exact Asks.bind_except (DriveHealth.Scsi.ExceptionsPage.asks_read sense .current)
      (fun current => asks_askPage sense select options current) fun _ => Asks.done _

theorem asks_readLog (log : P (.logSense logPage 0 (.zeros logBuffer))) : Asks P readLog :=
  Asks.bind_except (asks_perform log) (fun _ => Asks.done _) fun _ => Asks.done _

theorem asks_check (sense : ∀ r : Request, r.isSense = true → P r)
    (select : ∀ form data save, P (.modeSelect form data save))
    (log : P (.logSense logPage 0 (.zeros logBuffer))) (options : Options) :
    Asks P (check options) := by
  rw [check_eq]
  exact (asks_readLog log).bind fun answer => asks_afterLog sense select options answer

end Scsi

/-- A check reads one log, and it may change the exceptions page. -/
theorem asks_check (plain : ∀ r : Request, r.isPlain = true → P r)
    (select : ∀ form data save, P (.modeSelect form data save))
    (log : P (.logSense Scsi.logPage 0 (.zeros Scsi.logBuffer))) (d : Drive)
    (options : Options) : Asks P (d.check options) := by
  have scsi : Asks P (Scsi.check options) :=
    Scsi.asks_check (fun r h => plain r (r.isPlain_of_isSense h)) select log options
  unfold Drive.check
  cases d.kind with
  | ata =>
    refine (Ata.asks_checkSmart plain d).bind fun result => ?_
    split
    · exact scsi.bind fun _ => Asks.done _
    · exact Asks.done _
  | scsi => exact scsi
  | nvme => exact Nvme.asks_check plain

end Check

namespace ErrorLog

/-- The extended log and the directory of the logs are read one sector at a time. -/
def SectorLogs (P : Request → Prop) : Prop :=
  ∀ log page, P (.readLog log page 0 0 (.zeros sector))

theorem Directory.asks_readGeneral (logs : SectorLogs P) : Asks P Directory.readGeneral.run :=
  asks_fallible_bind (asks_require (asks_perform (logs _ _))) fun _ => Asks.done _

theorem asks_extendedCandidate (logs : SectorLogs P) (d : Drive) :
    Asks P (extendedCandidate d) := by
  unfold extendedCandidate
  split
  · exact Asks.bind_except (Directory.asks_readGeneral logs) (fun _ => Asks.done _)
      fun _ => Asks.done _
  · exact Asks.done _

/-- Only the extended log is read by requests that are not plain. -/
def Readable (P : Request → Prop) (source : Source) : Prop :=
  source = .extended → SectorLogs P

variable (plain : ∀ r : Request, r.isPlain = true → P r) {source : Source}
include plain

theorem Pages.asks_fetch (readable : Readable P source) (i : UInt16) :
    Asks P (Pages.fetch source i).run := by
  cases source with
  | extended => exact asks_require (asks_perform (readable rfl _ _))
  | comprehensive =>
    exact asks_fallible_bind (asks_require (asks_perform (plain _ rfl))) fun _ => Asks.done _
  | summary =>
    show Asks P (ExceptT.run (if i = 0 then _ else _))
    split
    · exact asks_require (asks_perform (plain _ rfl))
    · exact Asks.done _

theorem Pages.asks_page (readable : Readable P source) (c : Pages) (i : UInt16) :
    Asks P (Pages.page source c i) := by
  unfold page
  split
  · exact Asks.done _
  · exact Asks.bind_except (asks_fetch plain readable i) (fun _ => Asks.done _)
      fun _ => Asks.done _

theorem Walk.asks_visit (readable : Readable P source) (capacity n slot : Nat)
    (found : List NumberedEntry) (c : Pages) :
    Asks P (Walk.visit source capacity n slot found c) := by
  induction n generalizing slot found c with
  | zero => exact Asks.done _
  | succ n ih =>
    refine (Pages.asks_page plain readable c (pageOf source slot)).bind fun x => ?_
    obtain ⟨r, c'⟩ := x
    cases r with
    | ok page => exact ih _ _ _
    | error e => exact Asks.done _

theorem asks_readSource (readable : Readable P source) (pages : UInt16) :
    Asks P (readSource source pages) := by
  refine (Pages.asks_page plain readable {} 0).bind fun x => ?_
  obtain ⟨r, c⟩ := x
  cases r with
  | error e => exact Asks.done _
  | ok first =>
    dsimp only
    split
    · exact Asks.done _
    · exact (Walk.asks_visit plain readable _ _ _ _ c).bind fun _ => Asks.done _

theorem asks_readFirst {l : List (Source × UInt16)} (readable : ∀ e ∈ l, Readable P e.1) :
    Asks P (readFirst l) := by
  induction l with
  | nil => exact Asks.done _
  | cons e r ih =>
    obtain ⟨source, pages⟩ := e
    obtain ⟨hfirst, hrest⟩ := List.forall_mem_cons.mp readable
    exact Asks.bind_except (asks_readSource plain hfirst pages) (fun _ => Asks.done _)
      fun _ => ih hrest

theorem asks_candidates (logs : SectorLogs P) (d : Drive) : Asks P (candidates d) :=
  (asks_extendedCandidate logs d).bind fun _ =>
    (asks_comprehensiveCandidate plain d).bind fun _ => Asks.done _

/-- The error log is read in single sectors. -/
theorem asks_read (logs : SectorLogs P) (d : Drive) : Asks P (read d) := by
  unfold read
  split
  · exact (asks_candidates plain logs d).bind fun _ =>
      asks_readFirst plain fun _ _ _ => logs
  · exact Asks.done _

end ErrorLog
end DriveHealth
