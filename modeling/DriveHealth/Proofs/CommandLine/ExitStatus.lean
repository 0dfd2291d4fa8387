import DriveHealth.CommandLine.Machine
import DriveHealth.CommandLine.Run
import DriveHealth.Proofs.CommandLine.Memory

/-!
The exit status of a check. It tells the verdict, with one status for each of pass, warning and
fail and one for the two verdicts that decide nothing, and a check that runs out of memory ends like
those two. A path that is not opened has no verdict, and ends like a warning does.
-/
namespace DriveHealth.CommandLine

open Program

/-- The path is opened and the check of the drive ends. -/
inductive Checked (path : String) (family : Option VendorFamily) (t : ActionTrace) :
    Except Error CheckResult → Prop
  | intro {u v w : ActionTrace} {c : Config} {d : OpenDrive} {r : Except Error CheckResult} :
      t = u ++ (v ++ w) → Ends Settings.load u c →
      Ends (OpenDrive.openAs path (family.or c.family)) v (.ok d) →
      Ends (d.check c.checkOptions) w r → Checked path family t r

/-- The check ends in a verdict. -/
def Decided (path : String) (family : Option VendorFamily) (t : ActionTrace)
    (verdict : CheckStatus) : Prop := ∃ r, Checked path family t (.ok r) ∧ r.status = verdict

/-- The check ends in an error. -/
def Failed (path : String) (family : Option VendorFamily) (t : ActionTrace) : Prop :=
  ∃ e, Checked path family t (.error e)

/-- The path is not opened. -/
inductive Unopened (path : String) (t : ActionTrace) : Prop
  | intro {u v : ActionTrace} {c : Config} : t = u ++ v → Ends Settings.load u c →
      Shut path v → Unopened path t

variable {path : String} {family : Option VendorFamily} {json : Bool} {t : ActionTrace}

/-- A run has one outcome. -/
theorem Checked.unique {a b : Except Error CheckResult} (h : Checked path family t a)
    (h' : Checked path family t b) : a = b := by
  obtain ⟨rfl, hload, hopen, hcheck⟩ := h
  obtain ⟨heq, hload', hopen', hcheck'⟩ := h'
  obtain ⟨rfl, rfl, heq⟩ := hload.unique hload' heq
  obtain ⟨rfl, hdrive, heq⟩ := hopen.unique hopen' heq
  cases hdrive
  exact (hcheck.unique hcheck' (congrArg (· ++ []) heq)).2.1

theorem Unopened.not_checked (h : Unopened path t) (r : Except Error CheckResult) :
    ¬Checked path family t r := by
  obtain ⟨rfl, hload, hshut⟩ := h
  rintro ⟨heq, hload', hopen', -⟩
  obtain ⟨rfl, rfl, heq⟩ := hload.unique hload' heq
  obtain ⟨f, hopen⟩ := OpenDrive.ends_openAs_error_iff.mpr hshut
  obtain ⟨-, hdrive, -⟩ := hopen.unique hopen' ((List.append_nil _).trans heq)
  cases hdrive

/-- The error of a check is a lack of memory. -/
theorem Checked.error_iff {r : Except Error CheckResult} (h : Checked path family t r) :
    (∃ e, r = .error e) ↔ Short t := by
  obtain ⟨rfl, hload, hopen, hcheck⟩ := h
  have hloaded := needsNoMemory_load.not_short hload
  have hopened := (OpenDrive.needsNoMemory_openAs _ _).not_short hopen
  rw [short_append_iff, short_append_iff, OpenDrive.reserving_error_iff hcheck]
  simp only [hloaded, hopened, false_or]

theorem Unopened.not_short (h : Unopened path t) : ¬Short t := by
  obtain ⟨rfl, hload, hshut⟩ := h
  obtain ⟨f, hopen⟩ := OpenDrive.ends_openPath_error_iff.mpr hshut
  rw [short_append_iff, not_or]
  exact ⟨needsNoMemory_load.not_short hload, (OpenDrive.needsNoMemory_openPath _).not_short hopen⟩

/-- A check ends with the outcome of the drive's check, or it does not open the path and fails. -/
theorem checked_or_unopened {c : Config} {u : ActionTrace} {outcome : Outcome}
    (hload : Ends Settings.load u c)
    (h : Ends (check json path c.checkOptions (family.or c.family)) t outcome) :
    (∃ r, Checked path family (u ++ t) r ∧ outcome = checkOutcome json r) ∨
      (Unopened path (u ++ t) ∧ outcome.status = 1) := by
  obtain ⟨v, w, opened, rfl, hopen, hrest⟩ := ends_bind_iff.mp h
  cases opened with
  | error f =>
    obtain ⟨rfl, rfl⟩ := ends_done_iff.mp hrest
    rw [List.append_nil]
    exact .inr ⟨.intro rfl hload (OpenDrive.ends_openAs_error_iff.mp ⟨f, hopen⟩), rfl⟩
  | ok d =>
    obtain ⟨r, hcheck, rfl⟩ := ends_bind_done_iff.mp hrest
    exact .inl ⟨r, .intro rfl hload hopen hcheck, rfl⟩

theorem run_eq {arguments : List String} {i : Invocation}
    (h : Invocation.ofArguments? arguments = some i) :
    run arguments = Settings.load.bind fun c => i.command.run c i.json := by
  unfold run
  rw [h]

/-- What each exit status of a check tells. -/
structure StatusTold (path : String) (family : Option VendorFamily) (t : ActionTrace)
    (status : UInt8) : Prop where
  zero_iff : status = 0 ↔ Decided path family t .pass
  one_iff : status = 1 ↔ Decided path family t .warning ∨ Unopened path t
  two_iff : status = 2 ↔ Decided path family t .fail
  three_iff : status = 3 ↔
    Decided path family t .unknown ∨ Decided path family t .notSupported ∨ Failed path family t
  /-- The only error is that there is no memory for a buffer. -/
  failed_iff : Failed path family t ↔ Short t

theorem statusTold_of_checked {r : Except Error CheckResult} (h : Checked path family t r) :
    StatusTold path family t (checkOutcome json r).status := by
  have hopened : ¬Unopened path t := fun hunopened => hunopened.not_checked r h
  have hverdict : ∀ verdict,
      Decided path family t verdict ↔ ∃ result, r = .ok result ∧ result.status = verdict := by
    intro verdict
    constructor
    · rintro ⟨result, hchecked, hstatus⟩
      exact ⟨result, h.unique hchecked, hstatus⟩
    · rintro ⟨result, rfl, hstatus⟩
      exact ⟨result, h, hstatus⟩
  have hfailed : Failed path family t ↔ ∃ e, r = .error e := by
    constructor
    · rintro ⟨e, hchecked⟩
      exact ⟨e, h.unique hchecked⟩
    · rintro ⟨e, rfl⟩
      exact ⟨e, h⟩
  have hshort := hfailed.trans h.error_iff
  cases r with
  | error e =>
    constructor <;> simp [hverdict, hfailed, hopened, ← hshort, checkOutcome, exitStatus]
  | ok result =>
    cases hstatus : result.status <;> constructor <;>
      simp [hverdict, hfailed, hopened, ← hshort, checkOutcome, exitStatus, hstatus]

theorem statusTold_of_unopened (h : Unopened path t) : StatusTold path family t 1 := by
  have hundecided : ∀ verdict, ¬Decided path family t verdict :=
    fun verdict ⟨_, hchecked, _⟩ => h.not_checked _ hchecked
  have hunfailed : ¬Failed path family t := fun ⟨_, hchecked⟩ => h.not_checked _ hchecked
  constructor <;> simp [hundecided, hunfailed, h, h.not_short]

/-- Whatever the machine replies, the status of a check tells its outcome or a failed opening. -/
theorem check_statusTold {σ : Type} (handler : (c : Call) → σ → c.Reply × σ) (s : σ)
    {arguments : List String}
    (h : Invocation.ofArguments? arguments = some ⟨.check path family, json⟩) :
    StatusTold path family (conversation handler (run arguments) s)
      (Program.run handler (run arguments) s).1.status := by
  have hends := ends_conversation handler (run arguments) s
  rw [run_eq h] at hends ⊢
  obtain ⟨u, v, c, heq, hload, hcheck⟩ := ends_bind_iff.mp hends
  rw [heq]
  rcases checked_or_unopened hload hcheck with ⟨r, hchecked, houtcome⟩ | ⟨hunopened, hstatus⟩
  · rw [houtcome]
    exact statusTold_of_checked hchecked
  · rw [hstatus]
    exact statusTold_of_unopened hunopened

section Nowhere

/-- On a machine without files nothing is there to be opened. -/
def replyBare (c : Call) : c.Reply :=
  match c with
  | .files (.read _) | .files (.createDirectories _) | .files (.create _)
  | .files (.append _ _) => .error Files.Tree.noSuchFile
  | .files (.isDirectory _) | .files (.present _) => false
  | .node (.openFile _ _) => .error Files.Tree.noSuchFile
  | .node (.command _) | .node (.admin _) => .error Machine.noDrive
  | .node .clock => (0 : Nat)
  | .node (.pause _) => ()
  | .configDirectory => none
  | .localTime => (default : Farm.LocalTime)
  | .memory _ => true

def answerBare (c : Call) (s : Unit) : c.Reply × Unit := (replyBare c, s)

theorem ofArguments?_nowhere :
    Invocation.ofArguments? ["check", "nowhere"] = some ⟨.check "nowhere" none, false⟩ := by
  decide +kernel

theorem check_statusTold_nowhere :
    Invocation.ofArguments? ["check", "nowhere"] = some ⟨.check "nowhere" none, false⟩ ∧
    StatusTold "nowhere" none (conversation answerBare (run ["check", "nowhere"]) ())
      (Program.run answerBare (run ["check", "nowhere"]) ()).1.status :=
  ⟨ofArguments?_nowhere, check_statusTold answerBare () ofArguments?_nowhere⟩

theorem unopened_nowhere :
    Unopened "nowhere" (conversation answerBare (run ["check", "nowhere"]) ()) := by
  have hrefused : Unidentified "nowhere" _ :=
    .refused Files.Tree.noSuchFile Files.Tree.noSuchFile
  have hload : Ends Settings.load [⟨.configDirectory, (none : Option String)⟩] {} :=
    ends_perform_bind_iff.mpr ⟨none, [], rfl, Ends.done _⟩
  refine .intro ?_ hload (.node hrefused)
  rw [run_eq ofArguments?_nowhere]
  rfl

/-- A path that is not there is told as a warning. -/
theorem not_unopened_three : ¬ ∀ (reply : (c : Call) → Unit → c.Reply × Unit)
    (arguments : List String) (path : String) (family : Option VendorFamily) (json : Bool),
    Invocation.ofArguments? arguments = some ⟨.check path family, json⟩ →
      Unopened path (conversation reply (run arguments) ()) →
        (Program.run reply (run arguments) ()).1.status = 3 := by
  intro h
  have hstatus := h answerBare _ _ _ _ ofArguments?_nowhere unopened_nowhere
  revert hstatus
  decide +kernel

end Nowhere
end DriveHealth.CommandLine
