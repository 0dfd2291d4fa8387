import DriveHealth.Check.Ata
import DriveHealth.Proofs.Attribute.Worst
import DriveHealth.Proofs.Check.Explained
import DriveHealth.Proofs.Transport.Requests

/-!
The verdict on an ATA drive. Five replies count: the signature that the drive returns, the copy of
it in the SCT status, the two pages of the attribute table, and whatever a bridge says. A failure of
the drive or of an attribute is a failure, then a warning of an attribute is a warning, and a drive
passes if it says so, or if its attributes could be held against their thresholds. The bridge is
asked only if this decides nothing.
-/
namespace DriveHealth.Check.Ata

open DriveHealth.Scsi (DriveTrace)
open Transport Program

/-- The two bytes that tell a status. -/
inductive Signature : UInt8 → UInt8 → CheckStatus → Prop
  | pass : Signature 0x4F 0xC2 .pass
  | fail : Signature 0xF4 0x2C .fail

/-- No registers came, or none that carry a signature. -/
def Unsigned (reply : Except TransportError TaskFile) : Prop :=
  ∀ registers, reply = .ok registers → ∀ s, ¬Signature registers.lbaMid registers.lbaHigh s

/-- A SCT status of a version that has the signature, and with one. -/
def Mirrors (page : Bytes) (s : CheckStatus) : Prop :=
  3 ≤ page.le16 0 ∧ Signature (page.byteAt 214) (page.byteAt 215) s

def statusEvent (reply : Except TransportError TaskFile) : (r : Request) × r.Reply :=
  ⟨.returnStatus, reply⟩

def sctEvent (reply : Except TransportError Bytes) : (r : Request) × r.Reply :=
  ⟨.sctStatus (.zeros sector), reply⟩

def dataEvent (reply : Except TransportError Bytes) : (r : Request) × r.Reply :=
  ⟨.smartReadData (.zeros Attribute.Table.pageLength), reply⟩

def thresholdsEvent (reply : Except TransportError Bytes) : (r : Request) × r.Reply :=
  ⟨.smartReadThresholds (.zeros Attribute.Table.pageLength), reply⟩

/-- What a drive says of itself. Only a drive that returns no signature is asked for its copy. -/
inductive Says (d : Drive) : DriveTrace → Option (CheckStatus × StatusSource) → Prop
  | returned {registers : TaskFile} {s : CheckStatus} :
      Signature registers.lbaMid registers.lbaHigh s →
      Says d [statusEvent (.ok registers)] (some (s, .returnStatus))
  | withoutSct {reply : Except TransportError TaskFile} : Unsigned reply →
      d.features.sctSupported = false → Says d [statusEvent reply] none
  | unread {reply : Except TransportError TaskFile} (e : TransportError) : Unsigned reply →
      d.features.sctSupported = true → Says d [statusEvent reply, sctEvent (.error e)] none
  | mirrored {reply : Except TransportError TaskFile} {page : Bytes} {s : CheckStatus} :
      Unsigned reply → d.features.sctSupported = true → Mirrors page s →
      Says d [statusEvent reply, sctEvent (.ok page)] (some (s, .sctStatus))
  | silent {reply : Except TransportError TaskFile} {page : Bytes} : Unsigned reply →
      d.features.sctSupported = true → (∀ s, ¬Mirrors page s) →
      Says d [statusEvent reply, sctEvent (.ok page)] none

/-- The table that a drive shows, if it can be read, and whether it comes with its thresholds. -/
inductive Reads : DriveTrace → Option Attribute.Table → Bool → Prop
  | refused (e : TransportError) : Reads [dataEvent (.error e)] none false
  | malformed {data : Bytes} {thresholds : Except TransportError Bytes} {e : Error} :
      Attribute.Table.ofPages data thresholds.toOption = .error e →
      Reads [dataEvent (.ok data), thresholdsEvent thresholds] none false
  | read {data : Bytes} {thresholds : Except TransportError Bytes} {table : Attribute.Table} :
      Attribute.Table.ofPages data thresholds.toOption = .ok table →
      Reads [dataEvent (.ok data), thresholdsEvent thresholds] (some table)
        thresholds.toOption.isSome

/-- The attributes that were read. -/
def attributesOf (table : Option Attribute.Table) : List Attribute :=
  (table.map Attribute.Table.attributes).getD []

/-- The status that follows from the word of the drive, its worst attribute, and whether there were
attributes and thresholds to compare. -/
def statusOf (device worst : Option CheckStatus) (compared : Bool) : CheckStatus :=
  if device = some .fail ∨ worst = some .fail then .fail
  else if worst = some .warning then .warning
  else if device = some .pass ∨ compared = true then .pass
  else .unknown

/-- A verdict on the word of the drive and its worst attribute. -/
structure Judged (family : VendorFamily) (device : Option (CheckStatus × StatusSource))
    (worst : Option (CheckStatus × Attribute)) (compared : Bool) (r : CheckResult) : Prop where
  status : r.status = statusOf (device.map Prod.fst) (worst.map Prod.fst) compared
  attribute_trip : ∀ s a, worst = some (s, a) →
    s = .fail ∨ device.map Prod.fst ≠ some .fail →
    ∃ trip, a.trip? family = some (s, trip) ∧ r.trip = some trip
  status_trip : ∀ source, device = some (.fail, source) → worst.map Prod.fst ≠ some .fail →
    r.trip = some (statusTrip source)
  no_trip : worst = none → device.map Prod.fst ≠ some .fail → r.trip = none

/-- The verdict that an ATA drive itself gives rise to. -/
inductive Smart (d : Drive) : DriveTrace → CheckResult → Prop
  | disabled : d.features.smartEnabled = false → Smart d [] (.ofStatus .notSupported)
  | enabled {u v : DriveTrace} {device : Option (CheckStatus × StatusSource)}
      {table : Option Attribute.Table} {compared : Bool}
      {worst : Option (CheckStatus × Attribute)} {r : CheckResult} :
      d.features.smartEnabled = true → Says d u device → Reads v table compared →
      Attribute.Worst (attributesOf table) worst → Judged d.family device worst compared r →
      Smart d (u ++ v) r

/-- A verdict that decides nothing, of a drive behind a bridge that speaks SCSI. -/
def Unsettled (d : Drive) (smart : CheckResult) : Prop :=
  (smart.status = .unknown ∨ d.features.smartEnabled = false) ∧ d.attachment ≠ .ide ∧
    d.attachment ≠ .sata ∧ d.hasScsiView = true

/-- What the bridge says counts if it says anything. -/
inductive Settled (d : Drive) (options : Options) (smart : CheckResult) :
    DriveTrace → CheckResult → Prop
  | kept : ¬Unsettled d smart → Settled d options smart [] smart
  | undecided {t : DriveTrace} {asked : CheckResult} : Unsettled d smart →
      Scsi.Checks options t asked → asked.status = .unknown ∨ asked.status = .notSupported →
      Settled d options smart t smart
  | decided {t : DriveTrace} {asked : CheckResult} : Unsettled d smart →
      Scsi.Checks options t asked → asked.status ≠ .unknown → asked.status ≠ .notSupported →
      Settled d options smart t asked

/-- The requests that only a drive with a view of SCSI takes. -/
def isScsi : Request → Bool
  | .logSense _ _ _ | .logSenseSize _ _ | .modeSense _ _ _ _ | .modeSelect _ _ _
  | .requestSense _ => true
  | _ => false

/-- The verdict of a check, with the one that stood before the bridge was asked. -/
structure Verdict (d : Drive) (options : Options) (t : DriveTrace) (smart r : CheckResult) :
    Prop where
  settled : ∃ u v, t = u ++ v ∧ Smart d u smart ∧ Settled d options smart v r
  scsi_iff : (∃ e ∈ t, isScsi e.1 = true) ↔ Unsettled d smart

section Smart

variable {d : Drive} {t : DriveTrace} {device : Option (CheckStatus × StatusSource)}

theorem signature_iff {mid high : UInt8} {s : CheckStatus} :
    signature? mid high = some s ↔ Signature mid high s := by
  unfold signature?
  constructor
  · intro h
    split at h
    · rename_i hpass
      cases h
      rw [hpass.1, hpass.2]
      exact .pass
    · split at h
      · rename_i hfail
        cases h
        rw [hfail.1, hfail.2]
        exact .fail
      · cases h
  · intro h
    cases h <;> rfl

theorem unsigned_of_returned {reply : Except TransportError TaskFile}
    (h : returned? reply = none) : Unsigned reply := by
  rintro registers rfl s hs
  cases h.symm.trans (signature_iff.mpr hs)

theorem mirrors_iff {page : Bytes} {s : CheckStatus} :
    sctStatus? page = some s ↔ Mirrors page s := by
  unfold sctStatus? Mirrors sctVersion sctSignature
  rw [← signature_iff]
  split
  · rename_i hold
    refine iff_of_false nofun fun h => ?_
    exact absurd h.1 (UInt16.not_le.mpr hold)
  · rename_i hnew
    exact ⟨fun h => ⟨UInt16.not_lt.mp hnew, h⟩, fun h => h.2⟩

theorem says_of_ends (h : Ends (deviceStatus d) t device) : Says d t device := by
  unfold deviceStatus at h
  obtain ⟨u, v, reply, rfl, hasked, hrest⟩ := ends_bind_iff.mp h
  obtain rfl := ends_perform_iff.mp hasked
  cases hreturned : returned? reply with
  | some s =>
    rw [hreturned] at hrest
    obtain ⟨rfl, rfl⟩ := ends_done_iff.mp hrest
    cases reply with
    | error e => cases hreturned
    | ok registers => exact .returned (signature_iff.mp hreturned)
  | none =>
    rw [hreturned] at hrest
    have hunsigned := unsigned_of_returned hreturned
    dsimp only [askSct] at hrest
    split at hrest
    · rename_i hsct
      obtain ⟨v, w, page, rfl, hsctAsked, hdone⟩ := ends_bind_iff.mp hrest
      obtain rfl := ends_perform_iff.mp hsctAsked
      cases page with
      | error e =>
        obtain ⟨rfl, rfl⟩ := ends_done_iff.mp hdone
        exact .unread e hunsigned hsct
      | ok page =>
        obtain ⟨rfl, rfl⟩ := ends_done_iff.mp hdone
        cases hmirror : sctStatus? page with
        | none =>
          refine .silent hunsigned hsct fun s hs => ?_
          cases hmirror.symm.trans (mirrors_iff.mpr hs)
        | some s => exact .mirrored hunsigned hsct (mirrors_iff.mp hmirror)
    · rename_i hsct
      obtain ⟨rfl, rfl⟩ := ends_done_iff.mp hrest
      exact .withoutSct hunsigned (Bool.eq_false_iff.mpr hsct)

theorem toOption_of_readThresholds {thresholds : Option Bytes}
    (h : Ends Attribute.Table.readThresholds t thresholds) :
    ∃ reply, t = [thresholdsEvent reply] ∧ thresholds = reply.toOption := by
  unfold Attribute.Table.readThresholds at h
  obtain ⟨u, v, reply, rfl, hasked, hdone⟩ := ends_bind_iff.mp h
  obtain rfl := ends_perform_iff.mp hasked
  refine ⟨reply, ?_⟩
  cases reply with
  | error e =>
    obtain ⟨rfl, rfl⟩ := ends_done_iff.mp hdone
    exact ⟨rfl, rfl⟩
  | ok page =>
    obtain ⟨rfl, rfl⟩ := ends_done_iff.mp hdone
    exact ⟨rfl, rfl⟩

theorem thresholdsLoaded_of_ofPages {data : Bytes} {thresholds : Option Bytes}
    {table : Attribute.Table} (h : Attribute.Table.ofPages data thresholds = .ok table) :
    table.thresholdsLoaded = thresholds.isSome := by
  unfold Attribute.Table.ofPages at h
  split at h
  · cases h
  · cases h
    rfl

/-- Whether there were attributes and thresholds to compare. -/
def compared (table : Option Attribute.Table) : Bool := table.any Attribute.Table.thresholdsLoaded

theorem reads_of_ends {r : Except Error Attribute.Table} (henabled : d.features.smartEnabled = true)
    (h : Ends (Attribute.Table.read d.features) t r) :
    Reads t r.toOption (compared r.toOption) := by
  unfold Attribute.Table.read at h
  rw [if_pos henabled] at h
  unfold Attribute.Table.readPages at h
  obtain ⟨u, v, reply, rfl, hasked, hrest⟩ := ends_bind_iff.mp h
  obtain rfl := ends_perform_iff.mp hasked
  cases reply with
  | error e =>
    obtain ⟨rfl, rfl⟩ := ends_done_iff.mp hrest
    exact .refused e
  | ok data =>
    obtain ⟨v, w, thresholds, rfl, hthresholds, hdone⟩ := ends_bind_iff.mp hrest
    obtain ⟨reply, rfl, rfl⟩ := toOption_of_readThresholds hthresholds
    obtain ⟨rfl, rfl⟩ := ends_done_iff.mp hdone
    cases hpages : Attribute.Table.ofPages data reply.toOption with
    | error e => exact .malformed hpages
    | ok table =>
      have hloaded : compared (some table) = reply.toOption.isSome :=
        thresholdsLoaded_of_ofPages hpages
      show Reads _ (some table) (compared (some table))
      rw [hloaded]
      exact .read hpages

/-- The verdict without the table is that of the drive alone. -/
theorem judged_ofDeviceStatus (h : Decided device) (family : VendorFamily) :
    Judged family device none false (ofDeviceStatus device) := by
  cases device with
  | none =>
    refine ⟨rfl, nofun, nofun, fun _ _ => rfl⟩
  | some x =>
    obtain ⟨s, source⟩ := x
    rcases h _ rfl with hpass | hfail
    · obtain rfl : s = .pass := hpass
      exact ⟨rfl, nofun, nofun, fun _ _ => rfl⟩
    · obtain rfl : s = .fail := hfail
      refine ⟨rfl, nofun, ?_, fun _ hnot => absurd rfl hnot⟩
      intro other hother _
      cases hother
      rfl

theorem status_ofDeviceStatus (device : Option (CheckStatus × StatusSource)) :
    (ofDeviceStatus device).status = (device.map Prod.fst).getD .unknown := by
  cases device with
  | none => rfl
  | some x =>
    obtain ⟨s, source⟩ := x
    cases s <;> rfl

theorem judged_untripped (h : Decided device) (family : VendorFamily) (loaded : Bool) :
    Judged family device none loaded
      (if (ofDeviceStatus device).status = .unknown ∧ loaded = true then .ofStatus .pass
        else ofDeviceStatus device) := by
  have hdevice := judged_ofDeviceStatus h family
  cases device with
  | none =>
    cases loaded with
    | false => exact hdevice
    | true => exact ⟨rfl, nofun, nofun, fun _ _ => rfl⟩
  | some x =>
    have hdecided : ¬((ofDeviceStatus (some x)).status = .unknown ∧ loaded = true) := by
      rw [status_ofDeviceStatus]
      rcases h x rfl with hpass | hfail
      · simp [hpass]
      · simp [hfail]
    rw [if_neg hdecided]
    refine ⟨?_, hdevice.attribute_trip, hdevice.status_trip, hdevice.no_trip⟩
    rw [hdevice.status]
    rcases h x rfl with hpass | hfail
    · simp [statusOf, hpass]
    · simp [statusOf, hfail]

theorem judged_combine (h : Decided device) (family : VendorFamily) {table : Attribute.Table}
    {worst : Option (CheckStatus × Attribute)}
    (hworst : Attribute.Worst table.attributes worst)
    (hsearch : table.worstTrip? family = worst.bind fun w => w.2.trip? family) :
    Judged family device worst table.thresholdsLoaded
      (combine family (ofDeviceStatus device) table) := by
  unfold combine
  rw [hsearch]
  cases worst with
  | none => exact judged_untripped h family table.thresholdsLoaded
  | some w =>
    obtain ⟨s, a⟩ := w
    obtain ⟨hownTrips, hs⟩ := hworst.tripStatus_eq
    obtain ⟨trip, htrip⟩ := Attribute.trip?_of_trips family hownTrips
    rw [← hs] at htrip
    have hown : ∀ t b, some (s, a) = some (t, b) → ∃ trip', b.trip? family = some (t, trip') ∧
        some trip = some trip' := by
      intro t b heq
      cases heq
      exact ⟨trip, htrip, rfl⟩
    rw [Option.bind_some, htrip]
    rcases a.tripStatus_eq with hwarning | hfail
    · obtain rfl : s = .warning := hs.trans hwarning
      dsimp only
      by_cases hfail : device.map Prod.fst = some .fail
      · have hdevice := judged_ofDeviceStatus h family
        have hstatus : (ofDeviceStatus device).status = .fail := by
          rw [status_ofDeviceStatus, hfail, Option.getD_some]
        rw [if_pos hstatus]
        refine ⟨?_, ?_, fun source hsource _ => hdevice.status_trip source hsource nofun, nofun⟩
        · rw [hstatus, statusOf, if_pos (.inl hfail)]
        · intro t b heq hcounts
          cases heq
          rcases hcounts with hsevere | hother
          · cases hsevere
          · exact absurd hfail hother
      · have hstatus : (ofDeviceStatus device).status ≠ .fail := by
          rw [status_ofDeviceStatus]
          cases device with
          | none => nofun
          | some x => exact fun heq => hfail (congrArg some heq)
        rw [if_neg hstatus]
        refine ⟨?_, fun t b heq _ => hown t b heq, ?_, nofun⟩
        · simp [statusOf, CheckResult.tripped, hfail]
        · intro source hsource _
          exact absurd (congrArg (Option.map Prod.fst) hsource) hfail
    · obtain rfl : s = .fail := hs.trans hfail
      refine ⟨?_, fun t b heq _ => hown t b heq, fun _ _ hnot => absurd rfl hnot, nofun⟩
      simp [statusOf, CheckResult.tripped]

theorem smart_of_ends {r : CheckResult} (h : Ends (checkSmart d) t r) : Smart d t r := by
  unfold checkSmart at h
  split at h
  · rename_i henabled
    obtain ⟨u, v, device, rfl, hstatus, hrest⟩ := ends_bind_iff.mp h
    obtain ⟨v, w, read, rfl, htable, hdone⟩ := ends_bind_iff.mp hrest
    have hsays := says_of_ends hstatus
    have hreads := reads_of_ends henabled htable
    have hdecided := decided_of_deviceStatus hstatus
    cases read with
    | error e =>
      obtain ⟨rfl, rfl⟩ := ends_done_iff.mp hdone
      rw [List.append_nil]
      exact .enabled henabled hsays hreads (.untripped (List.forall_mem_nil _))
        (judged_ofDeviceStatus hdecided d.family)
    | ok table =>
      obtain ⟨rfl, rfl⟩ := ends_done_iff.mp hdone
      obtain ⟨worst, hworst, hsearch⟩ := Attribute.exists_worst d.family table.attributes
      rw [List.append_nil]
      exact .enabled henabled hsays hreads hworst (judged_combine hdecided d.family hworst hsearch)
  · rename_i hdisabled
    obtain ⟨rfl, rfl⟩ := ends_done_iff.mp h
    exact .disabled (Bool.eq_false_iff.mpr hdisabled)

theorem notSupported_iff {smart : CheckResult} (h : Smart d t smart) :
    smart.status = .notSupported ↔ d.features.smartEnabled = false := by
  cases h with
  | disabled hdisabled => exact iff_of_true rfl hdisabled
  | enabled henabled _ _ _ hjudged =>
    refine iff_of_false ?_ (by simp [henabled])
    rw [hjudged.status]
    unfold statusOf
    split
    · nofun
    · split
      · nofun
      · split <;> nofun

theorem unsettled_iff {smart : CheckResult} (h : Smart d t smart) :
    (undecided smart.status && bridged d) = true ↔ Unsettled d smart := by
  have hattachment : (!d.attachment.isIde) = true ↔
      d.attachment ≠ .ide ∧ d.attachment ≠ .sata := by
    cases d.attachment <;> simp [Attachment.isIde]
  unfold undecided bridged Unsettled
  rw [Bool.and_eq_true, Bool.and_eq_true, Bool.or_eq_true, beq_iff_eq, beq_iff_eq,
    notSupported_iff h, hattachment, and_assoc]

theorem settled_of_ends {options : Options} {smart r : CheckResult} {u v : DriveTrace}
    (hsmart : Smart d u smart)
    (h : Ends (if undecided smart.status && bridged d then
      (Scsi.check options).bind fun asked =>
        .done (if undecided asked.status then smart else asked)
      else .done smart) v r) : Settled d options smart v r := by
  split at h
  · rename_i hasks
    have hunsettled := (unsettled_iff hsmart).mp hasks
    obtain ⟨v, w, asked, rfl, hasked, hdone⟩ := ends_bind_iff.mp h
    obtain ⟨rfl, rfl⟩ := ends_done_iff.mp hdone
    have hchecks := Scsi.checks_of_ends hasked
    rw [List.append_nil]
    have hundecided : undecided asked.status = true ↔
        asked.status = .unknown ∨ asked.status = .notSupported := by
      rw [undecided, Bool.or_eq_true, beq_iff_eq, beq_iff_eq]
    by_cases hnothing : undecided asked.status = true
    · rw [if_pos hnothing]
      exact .undecided hunsettled hchecks (hundecided.mp hnothing)
    · rw [if_neg hnothing]
      rw [hundecided, not_or] at hnothing
      exact .decided hunsettled hchecks hnothing.1 hnothing.2
  · rename_i hkeeps
    obtain ⟨rfl, rfl⟩ := ends_done_iff.mp h
    exact .kept fun hunsettled => hkeeps ((unsettled_iff hsmart).mpr hunsettled)

/-- A check over SCSI asks for a log before anything else. -/
theorem exists_isScsi_of_checks {options : Options} {asked : CheckResult}
    (h : Scsi.Checks options t asked) : ∃ e ∈ t, isScsi e.1 = true := by
  cases h <;> exact ⟨_, List.mem_cons_self, rfl⟩

theorem not_isScsi_of_smart {smart : CheckResult} (h : Smart d t smart) :
    ∀ e ∈ t, isScsi e.1 = false := by
  cases h with
  | disabled _ => exact List.forall_mem_nil _
  | enabled _ hsays hreads _ _ =>
    refine List.forall_mem_append.mpr ⟨?_, ?_⟩
    · cases hsays <;> simp [statusEvent, sctEvent, isScsi]
    · cases hreads <;> simp [dataEvent, thresholdsEvent, isScsi]

theorem scsi_iff_of_settled {options : Options} {smart r : CheckResult} {u v : DriveTrace}
    (hsmart : Smart d u smart) (h : Settled d options smart v r) :
    (∃ e ∈ u ++ v, isScsi e.1 = true) ↔ Unsettled d smart := by
  constructor
  · intro ⟨e, he, hscsi⟩
    rcases List.mem_append.mp he with hfirst | hrest
    · rw [not_isScsi_of_smart hsmart e hfirst] at hscsi
      cases hscsi
    · cases h with
      | kept _ => cases hrest
      | undecided hunsettled _ _ => exact hunsettled
      | decided hunsettled _ _ _ => exact hunsettled
  · intro hunsettled
    have hasked : ∃ asked, Scsi.Checks options v asked := by
      cases h with
      | kept hsettled => exact absurd hunsettled hsettled
      | undecided _ hchecks _ => exact ⟨_, hchecks⟩
      | decided _ hchecks _ _ => exact ⟨_, hchecks⟩
    obtain ⟨asked, hchecks⟩ := hasked
    obtain ⟨e, he, hscsi⟩ := exists_isScsi_of_checks hchecks
    exact ⟨e, List.mem_append_right u he, hscsi⟩

end Smart

/-- Whatever the drive replies, the check of an ATA drive ends in the verdict of its evidence. -/
theorem check_verdict {σ : Type} (handler : (r : Request) → σ → r.Reply × σ) (s : σ) (d : Drive)
    (options : Options) : ∃ smart, Verdict d options (conversation handler (check d options) s)
      smart (run handler (check d options) s).1 := by
  obtain ⟨u, v, smart, hsplit, hsmart, hrest⟩ :=
    ends_bind_iff.mp (ends_conversation handler (check d options) s)
  have hjudged := smart_of_ends hsmart
  have hsettled := settled_of_ends hjudged hrest
  refine ⟨smart, ⟨u, v, hsplit, hjudged, hsettled⟩, ?_⟩
  rw [hsplit]
  exact scsi_iff_of_settled hjudged hsettled

end DriveHealth.Check.Ata
