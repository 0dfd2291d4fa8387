import DriveHealth.Check
import DriveHealth.Proofs.Attribute.Trip
import DriveHealth.Proofs.Check.Scsi

/-!
The trips that explain verdicts. A check ends in a verdict whatever the drive replies, and the
verdict comes with a trip exactly if it is a warning or a failure. The trip is told in the
protocol of the drive, or in that of the bridge in front of it, and one that names an attribute
names one of the table that the drive has shown.
-/
namespace DriveHealth.Check

open DriveHealth.Scsi Transport Program

/-- A verdict with a trip of one kind if it is a warning or a failure, and without one if not. -/
inductive Grounded (P : Trip → Prop) : CheckResult → Prop
  | clear (s : CheckStatus) : s ≠ .warning → s ≠ .fail → Grounded P (.ofStatus s)
  | tripped (s : CheckStatus) (trip : Trip) : s = .warning ∨ s = .fail → P trip →
      Grounded P (.tripped s trip)

namespace Grounded

variable {P Q : Trip → Prop} {r : CheckResult}

theorem isSome_iff (h : Grounded P r) :
    r.trip.isSome = true ↔ r.status = .warning ∨ r.status = .fail := by
  cases h with
  | clear s hwarning hfail =>
    refine iff_of_false Bool.false_ne_true ?_
    rintro (hs | hs)
    · exact hwarning hs
    · exact hfail hs
  | tripped s trip hs _ => exact iff_of_true rfl hs

theorem of_trip (h : Grounded P r) {trip : Trip} (htrip : r.trip = some trip) : P trip := by
  cases h with
  | clear s _ _ => cases htrip
  | tripped s _ _ hp =>
    cases htrip
    exact hp

theorem mono (h : Grounded P r) (hpq : ∀ trip, P trip → Q trip) : Grounded Q r := by
  cases h with
  | clear s hwarning hfail => exact .clear s hwarning hfail
  | tripped s trip hs hp => exact .tripped s trip hs (hpq trip hp)

theorem unknown (P : Trip → Prop) : Grounded P (.ofStatus .unknown) :=
  .clear _ (by decide) (by decide)

theorem notSupported (P : Trip → Prop) : Grounded P (.ofStatus .notSupported) :=
  .clear _ (by decide) (by decide)

theorem pass (P : Trip → Prop) : Grounded P (.ofStatus .pass) :=
  .clear _ (by decide) (by decide)

end Grounded

/-- Sense codes, told in the protocol of SCSI. -/
inductive OfSense : Trip → Prop
  | intro (key asc ascq : UInt8) (reason : String) : OfSense ⟨.scsi, .sense key asc ascq, reason⟩

theorem grounded_verdict (s : Sense) : Grounded OfSense s.verdict := by
  unfold Sense.verdict Sense.status
  by_cases hfailing : s.asc = Sense.impendingFailure
  · simp only [if_pos hfailing]
    exact .tripped _ _ (.inr rfl) (.intro ..)
  · by_cases hwarning : s.asc = Sense.warning
    · simp only [if_neg hfailing, if_pos hwarning]
      exact .tripped _ _ (.inl rfl) (.intro ..)
    · simp only [if_neg hfailing, if_neg hwarning]
      exact .pass _

theorem grounded_senseOf (reply : Except TransportError (Bytes × Nat)) :
    Grounded OfSense (Scsi.senseOf reply) := by
  cases reply with
  | error e => exact .unknown _
  | ok x =>
    show Grounded OfSense (Scsi.senseVerdict _)
    unfold Scsi.senseVerdict
    split
    · exact grounded_verdict _
    · exact .unknown _

/-- A check over SCSI ends in a verdict on sense codes, or in none. -/
theorem grounded_of_checks {options : Options} {t : DriveTrace} {r : CheckResult}
    (h : Scsi.Checks options t r) : Grounded OfSense r := by
  cases h with
  | codes _ => exact grounded_verdict _
  | foreign _ => exact .unknown _
  | unread _ _ => exact .notSupported _
  | silent _ _ _ => exact .notSupported _
  | waited sense _ _ _ _ => exact grounded_senseOf sense
  | refused e _ _ _ => exact .unknown _
  | switched sense _ _ _ _ _ => exact grounded_senseOf sense

/-- The critical warning byte, told in the protocol of NVMe. -/
inductive OfWarning : Trip → Prop
  | intro (bits : UInt8) (reason : String) : OfWarning ⟨.nvme, .criticalWarning bits, reason⟩

theorem grounded_of_ends_nvme {t : DriveTrace} {r : CheckResult} (h : Ends Nvme.check t r) :
    Grounded OfWarning r := by
  unfold Nvme.check at h
  obtain ⟨u, v, reply, rfl, -, hdone⟩ := ends_bind_iff.mp h
  cases reply with
  | error e =>
    obtain ⟨-, rfl⟩ := ends_done_iff.mp hdone
    exact .unknown _
  | ok page =>
    obtain ⟨-, rfl⟩ := ends_done_iff.mp hdone
    unfold Nvme.verdict
    split
    · exact .pass _
    · exact .tripped _ _ (.inr rfl) (.intro ..)

/-- The attribute table that a conversation with a drive has shown. -/
inductive Shown (t : DriveTrace) (table : Attribute.Table) : Prop
  | intro (data : Bytes) (thresholds : Except TransportError Bytes) :
      ⟨.smartReadData (.zeros Attribute.Table.pageLength), .ok data⟩ ∈ t →
      ⟨.smartReadThresholds (.zeros Attribute.Table.pageLength), thresholds⟩ ∈ t →
      Attribute.Table.ofPages data thresholds.toOption = .ok table → Shown t table

/-- The status of the drive, or an attribute of the table that it has shown. -/
inductive OfAta (family : VendorFamily) (t : DriveTrace) : Trip → Prop
  | status (source : StatusSource) (reason : String) :
      OfAta family t ⟨.ata, .status source, reason⟩
  | named {table : Attribute.Table} {a : Attribute} {detail : TripDetail} (reason : String) :
      Shown t table → a ∈ table.attributes → Attribute.Tells family a detail →
      OfAta family t ⟨.ata, detail, reason⟩

section Ata

variable {t u : DriveTrace} {family : VendorFamily} {table : Attribute.Table}

theorem Shown.mono (h : Shown t table) (hsub : t ⊆ u) : Shown u table := by
  obtain ⟨data, thresholds, hdata, hthresholds, hpages⟩ := h
  exact ⟨data, thresholds, hsub hdata, hsub hthresholds, hpages⟩

theorem OfAta.mono {trip : Trip} (h : OfAta family t trip) (hsub : t ⊆ u) :
    OfAta family u trip := by
  cases h with
  | status source reason => exact .status source reason
  | named reason hshown ha htells => exact .named reason (hshown.mono hsub) ha htells

theorem shown_of_ends {features : AtaFeatures}
    (h : Ends (Attribute.Table.read features) t (.ok table)) : Shown t table := by
  unfold Attribute.Table.read at h
  split at h
  · unfold Attribute.Table.readPages at h
    obtain ⟨u, v, reply, rfl, hdata, hrest⟩ := ends_bind_iff.mp h
    obtain rfl := ends_perform_iff.mp hdata
    cases reply with
    | error e =>
      cases (ends_done_iff.mp hrest).2
    | ok data =>
      obtain ⟨w, x, thresholds, rfl, hthresholds, hdone⟩ := ends_bind_iff.mp hrest
      obtain ⟨rfl, hpages⟩ := ends_done_iff.mp hdone
      unfold Attribute.Table.readThresholds at hthresholds
      obtain ⟨y, z, reply, rfl, hasked, hkept⟩ := ends_bind_iff.mp hthresholds
      obtain rfl := ends_perform_iff.mp hasked
      have hoption : thresholds = Except.toOption reply := by
        cases reply with
        | error e => exact (ends_done_iff.mp hkept).2
        | ok page => exact (ends_done_iff.mp hkept).2
      rw [hoption] at hpages
      exact .intro data reply (by simp) (by simp) hpages.symm
  · split at h
    · cases (ends_done_iff.mp h).2
    · cases (ends_done_iff.mp h).2

/-- What a drive says of itself is that it passes or that it fails. -/
def Decided (device : Option (CheckStatus × StatusSource)) : Prop :=
  ∀ s, device = some s → s.1 = .pass ∨ s.1 = .fail

theorem pass_or_fail_of_signature {mid high : UInt8} {s : CheckStatus}
    (h : Ata.signature? mid high = some s) : s = .pass ∨ s = .fail := by
  unfold Ata.signature? at h
  split at h
  · exact .inl (Option.some.inj h).symm
  · split at h
    · exact .inr (Option.some.inj h).symm
    · cases h

theorem decided_of_signature (mid high : UInt8) (source : StatusSource) :
    Decided ((Ata.signature? mid high).map fun s => (s, source)) := by
  intro s hs
  obtain ⟨status, hstatus, rfl⟩ := Option.map_eq_some_iff.mp hs
  exact pass_or_fail_of_signature hstatus

theorem decided_none : Decided none := fun _ h => nomatch h

theorem decided_of_askSct {d : Drive} {device : Option (CheckStatus × StatusSource)}
    (h : Ends (Ata.askSct d) t device) : Decided device := by
  unfold Ata.askSct at h
  split at h
  · obtain ⟨u, v, reply, rfl, -, hdone⟩ := ends_bind_iff.mp h
    cases reply with
    | error e =>
      obtain ⟨-, rfl⟩ := ends_done_iff.mp hdone
      exact decided_none
    | ok page =>
      obtain ⟨-, rfl⟩ := ends_done_iff.mp hdone
      unfold Ata.sctStatus?
      split
      · exact decided_none
      · exact decided_of_signature _ _ _
  · obtain ⟨-, rfl⟩ := ends_done_iff.mp h
    exact decided_none

theorem decided_of_deviceStatus {d : Drive} {device : Option (CheckStatus × StatusSource)}
    (h : Ends (Ata.deviceStatus d) t device) : Decided device := by
  unfold Ata.deviceStatus at h
  obtain ⟨u, v, reply, rfl, -, hrest⟩ := ends_bind_iff.mp h
  cases hreturned : Ata.returned? reply with
  | none =>
    rw [hreturned] at hrest
    exact decided_of_askSct hrest
  | some s =>
    rw [hreturned] at hrest
    obtain ⟨-, rfl⟩ := ends_done_iff.mp hrest
    have hstatus : s = .pass ∨ s = .fail := by
      cases reply with
      | error e => cases hreturned
      | ok registers => exact pass_or_fail_of_signature hreturned
    intro x hx
    cases hx
    exact hstatus

theorem grounded_ofDeviceStatus {device : Option (CheckStatus × StatusSource)}
    (h : Decided device) (family : VendorFamily) (t : DriveTrace) :
    Grounded (OfAta family t) (Ata.ofDeviceStatus device) := by
  cases device with
  | none => exact .unknown _
  | some s =>
    obtain ⟨status, source⟩ := s
    rcases h _ rfl with hpass | hfail
    · obtain rfl : status = .pass := hpass
      exact .pass _
    · obtain rfl : status = .fail := hfail
      exact .tripped _ _ (.inr rfl) (.status source _)

/-- The more severe of two verdicts has the trip that belongs to it. -/
theorem grounded_combine {device : CheckResult} (hdevice : Grounded (OfAta family t) device)
    (hshown : Shown t table) : Grounded (OfAta family t) (Ata.combine family device table) := by
  unfold Ata.combine
  cases hworst : table.worstTrip? family with
  | none =>
    dsimp only
    split
    · exact .pass _
    · exact hdevice
  | some x =>
    obtain ⟨s, trip⟩ := x
    obtain ⟨a, ha, hstatus, hprotocol, htells⟩ := Attribute.exists_of_worstTrip hworst
    have htrip : OfAta family t trip := by
      obtain ⟨protocol, detail, reason⟩ := trip
      obtain rfl : protocol = .ata := hprotocol
      exact .named reason hshown ha htells
    rcases a.tripStatus_eq with hwarning | hfail
    · obtain rfl : s = .warning := hstatus.trans hwarning
      dsimp only
      split
      · exact hdevice
      · exact .tripped _ _ (.inl rfl) htrip
    · obtain rfl : s = .fail := hstatus.trans hfail
      exact .tripped _ _ (.inr rfl) htrip

theorem grounded_of_checkSmart {d : Drive} {r : CheckResult} (h : Ends (Ata.checkSmart d) t r) :
    Grounded (OfAta d.family t) r := by
  unfold Ata.checkSmart at h
  split at h
  · obtain ⟨u, v, device, rfl, hstatus, hrest⟩ := ends_bind_iff.mp h
    obtain ⟨v, w, read, rfl, htable, hdone⟩ := ends_bind_iff.mp hrest
    have hdevice := grounded_ofDeviceStatus (decided_of_deviceStatus hstatus) d.family
      (u ++ (v ++ w))
    cases read with
    | error e =>
      obtain ⟨-, rfl⟩ := ends_done_iff.mp hdone
      exact hdevice
    | ok table =>
      obtain ⟨-, rfl⟩ := ends_done_iff.mp hdone
      refine grounded_combine hdevice ((shown_of_ends htable).mono ?_)
      intro e he
      exact List.mem_append_right u (List.mem_append_left w he)
  · obtain ⟨-, rfl⟩ := ends_done_iff.mp h
    exact .notSupported _

end Ata

/-- The trips that a drive may be found with. -/
def Fits (d : Drive) (t : DriveTrace) (trip : Trip) : Prop :=
  match d.kind with
  | .ata => OfAta d.family t trip ∨ (OfSense trip ∧ Ata.bridged d = true)
  | .scsi => OfSense trip
  | .nvme => OfWarning trip

theorem grounded_of_ends_ata {d : Drive} {options : Options} {t : DriveTrace} {r : CheckResult}
    (h : Ends (Ata.check d options) t r) :
    Grounded (fun trip => OfAta d.family t trip ∨ (OfSense trip ∧ Ata.bridged d = true)) r := by
  unfold Ata.check at h
  obtain ⟨u, v, smart, rfl, hsmart, hrest⟩ := ends_bind_iff.mp h
  have hata := (grounded_of_checkSmart hsmart).mono fun trip htrip =>
    htrip.mono (List.subset_append_left u v)
  split at hrest
  · rename_i hasks
    obtain ⟨v, w, asked, rfl, hasked, hdone⟩ := ends_bind_iff.mp hrest
    obtain ⟨-, rfl⟩ := ends_done_iff.mp hdone
    rw [Bool.and_eq_true] at hasks
    split
    · exact hata.mono fun trip htrip => .inl htrip
    · exact (grounded_of_checks (Scsi.checks_of_ends hasked)).mono fun trip htrip =>
        .inr ⟨htrip, hasks.2⟩
  · obtain ⟨-, rfl⟩ := ends_done_iff.mp hrest
    exact hata.mono fun trip htrip => .inl htrip

theorem grounded_of_ends {d : Drive} {options : Options} {t : DriveTrace} {r : CheckResult}
    (h : Ends (d.check options) t r) : Grounded (Fits d t) r := by
  unfold Drive.check at h
  unfold Fits
  cases hkind : d.kind with
  | ata =>
    rw [hkind] at h
    exact grounded_of_ends_ata h
  | scsi =>
    rw [hkind] at h
    exact grounded_of_checks (Scsi.checks_of_ends h)
  | nvme =>
    rw [hkind] at h
    exact grounded_of_ends_nvme h

/-- The protocols in which the trip of a drive may be told. -/
def Speaks (d : Drive) (protocol : DriveKind) : Prop :=
  match d.kind with
  | .nvme => protocol = .nvme
  | .scsi => protocol = .scsi
  | .ata => protocol = .ata ∨
      (protocol = .scsi ∧ d.attachment ≠ .ide ∧ d.attachment ≠ .sata ∧ d.hasScsiView = true)

/-- A verdict that its trip explains. -/
structure Explained (d : Drive) (t : DriveTrace) (r : CheckResult) : Prop where
  trip_iff : r.trip.isSome = true ↔ r.status = .warning ∨ r.status = .fail
  protocol : ∀ trip, r.trip = some trip → Speaks d trip.protocol
  /-- A trip that names an attribute names a tripped one of the table that was read. -/
  attribute_tripped : ∀ trip id name nominal worst threshold prefail, r.trip = some trip →
    trip.detail = .attribute id name nominal worst threshold prefail →
    ∃ table, Shown t table ∧ ∃ a ∈ table.attributes, a.tripState.tripped = true ∧
      Attribute.Tells d.family a trip.detail

theorem attachment_of_bridged {d : Drive} (h : Ata.bridged d = true) :
    d.attachment ≠ .ide ∧ d.attachment ≠ .sata ∧ d.hasScsiView = true := by
  unfold Ata.bridged at h
  rw [Bool.and_eq_true, Bool.not_eq_true'] at h
  obtain ⟨hide, hview⟩ := h
  refine ⟨?_, ?_, hview⟩
  · intro hattachment
    rw [hattachment] at hide
    cases hide
  · intro hattachment
    rw [hattachment] at hide
    cases hide

namespace Fits

variable {d : Drive} {t : DriveTrace} {trip : Trip}

theorem speaks (h : Fits d t trip) : Speaks d trip.protocol := by
  unfold Fits at h
  unfold Speaks
  cases hkind : d.kind with
  | ata =>
    rw [hkind] at h
    rcases h with hata | ⟨hsense, hbridged⟩
    · cases hata with
      | status source reason => exact .inl rfl
      | named reason _ _ _ => exact .inl rfl
    · obtain ⟨key, asc, ascq, reason⟩ := hsense
      exact .inr ⟨rfl, attachment_of_bridged hbridged⟩
  | scsi =>
    rw [hkind] at h
    obtain ⟨key, asc, ascq, reason⟩ := h
    exact rfl
  | nvme =>
    rw [hkind] at h
    obtain ⟨bits, reason⟩ := h
    exact rfl

/-- Only the check of the attribute table finds an attribute. -/
theorem exists_tripped (h : Fits d t trip) {id nominal worst threshold : UInt8}
    {name : Option String} {prefail : Bool}
    (hdetail : trip.detail = .attribute id name nominal worst threshold prefail) :
    ∃ table, Shown t table ∧ ∃ a ∈ table.attributes, a.tripState.tripped = true ∧
      Attribute.Tells d.family a trip.detail := by
  unfold Fits at h
  cases hkind : d.kind with
  | ata =>
    rw [hkind] at h
    rcases h with hata | ⟨hsense, -⟩
    · cases hata with
      | status source reason => cases hdetail
      | named reason hshown ha htells => exact ⟨_, hshown, _, ha, htells.tripped, htells⟩
    · obtain ⟨key, asc, ascq, reason⟩ := hsense
      cases hdetail
  | scsi =>
    rw [hkind] at h
    obtain ⟨key, asc, ascq, reason⟩ := h
    cases hdetail
  | nvme =>
    rw [hkind] at h
    obtain ⟨bits, reason⟩ := h
    cases hdetail

end Fits

/-- Whatever a drive replies, a check ends in a verdict that its trip explains. -/
theorem check_explained {σ : Type} (handler : (r : Request) → σ → r.Reply × σ) (s : σ) (d : Drive)
    (options : Options) : Explained d (conversation handler (d.check options) s)
      (run handler (d.check options) s).1 := by
  have hgrounded := grounded_of_ends (ends_conversation handler (d.check options) s)
  exact {
    trip_iff := hgrounded.isSome_iff
    protocol := fun trip htrip => (hgrounded.of_trip htrip).speaks
    attribute_tripped := by
      intro trip id name nominal worst threshold prefail htrip hdetail
      exact (hgrounded.of_trip htrip).exists_tripped hdetail
  }

end DriveHealth.Check
