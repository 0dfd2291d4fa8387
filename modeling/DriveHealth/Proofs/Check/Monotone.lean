import DriveHealth.Proofs.Attribute.Lowered
import DriveHealth.Proofs.Check.Ata

/-!
The trip rule is monotone from the data page to the verdict. A drive whose attributes have come down
is judged at least as severely as before, also where the check goes on to the bridge in front of it.
Thresholds that are no numbers, and thresholds that cannot be read, let no attribute count.
-/
namespace DriveHealth.Check.Ata

open DriveHealth.Scsi (DriveTrace)
open Attribute (LoweredPage Mute rank)
open Transport Program

def isSmartData : Request → Bool
  | .smartReadData _ => true
  | _ => false

/-- The same failure, or a data page with lowered attributes. -/
inductive LoweredReply : Except TransportError Bytes → Except TransportError Bytes → Prop
  | failed (e : TransportError) : LoweredReply (.error e) (.error e)
  | page {fresh worn : Bytes} : LoweredPage fresh worn → LoweredReply (.ok fresh) (.ok worn)

/-- The second of two drives replies as the first one does, but for the attributes on its data page,
which have come down. -/
structure Wears {σ τ : Type} (fresh : (r : Request) → σ → r.Reply × σ)
    (worn : (r : Request) → τ → r.Reply × τ) (R : σ → τ → Prop) : Prop where
  alike : ∀ r, isSmartData r = false → RepliesAlike fresh worn R r
  data : ∀ buffer s t, R s t →
    LoweredReply (fresh (.smartReadData buffer) s).1 (worn (.smartReadData buffer) t).1 ∧
      R (fresh (.smartReadData buffer) s).2 (worn (.smartReadData buffer) t).2

/-- No attribute of a table that was read has tripped, and none is told as the cause of the
verdict. -/
structure Untripped (t : DriveTrace) (r : CheckResult) : Prop where
  attributes : ∀ table, Shown t table → ∀ a ∈ table.attributes, ¬Attribute.Trips a
  trip : ∀ trip, r.trip = some trip → ∀ id name nominal worst threshold prefail,
    trip.detail ≠ .attribute id name nominal worst threshold prefail

/-- What the trip rule comes to in a check. -/
structure TripRule (d : Drive) (options : Options) : Prop where
  monotone : ∀ {σ τ : Type} {fresh : (r : Request) → σ → r.Reply × σ}
    {worn : (r : Request) → τ → r.Reply × τ} {R : σ → τ → Prop}, Wears fresh worn R →
    ∀ {s : σ} {t : τ}, R s t → (run fresh (check d options) s).1.status.severity ≤
      (run worn (check d options) t).1.status.severity
  mute : ∀ {t : DriveTrace} {r : CheckResult}, Ends (check d options) t r →
    (∀ reply, thresholdsEvent reply ∈ t → Mute reply.toOption) → Untripped t r

theorem statusOf_mono {device worst worst' : Option CheckStatus} (h : rank worst ≤ rank worst')
    (compared : Bool) :
    (statusOf device worst compared).severity ≤ (statusOf device worst' compared).severity := by
  have hmost : ∀ s : CheckStatus, s.severity ≤ CheckStatus.fail.severity := by
    intro s
    cases s <;> decide
  have hfail : worst = some .fail → worst' = some .fail := by
    rintro rfl
    rcases worst' with _ | s
    · simp [rank, CheckStatus.severity] at h
    · cases s <;> simp [rank, CheckStatus.severity] at h ⊢
  have hwarning : worst = some .warning → worst' = some .warning ∨ worst' = some .fail := by
    rintro rfl
    rcases worst' with _ | s
    · simp [rank, CheckStatus.severity] at h
    · cases s <;> simp [rank, CheckStatus.severity] at h ⊢
  unfold statusOf
  by_cases hfails : device = some .fail ∨ worst' = some .fail
  · rw [if_pos hfails]
    exact hmost _
  · obtain ⟨hdevice, hsound⟩ := not_or.mp hfails
    have hbefore : ¬(device = some .fail ∨ worst = some .fail) :=
      not_or.mpr ⟨hdevice, fun heq => hsound (hfail heq)⟩
    rw [if_neg hfails, if_neg hbefore]
    by_cases hwarns : worst' = some .warning
    · rw [if_pos hwarns]
      split
      · exact Nat.le_refl _
      · split <;> decide
    · have hclear : worst ≠ some .warning := by
        intro heq
        rcases hwarning heq with hwarned | hfailed
        · exact hwarns hwarned
        · exact hsound hfailed
      refine Nat.le_of_eq ?_
      rw [if_neg hwarns, if_neg hclear]

theorem decided_of_compared (device worst : Option CheckStatus) :
    undecided (statusOf device worst true) = false := by
  unfold statusOf
  split
  · rfl
  · split
    · rfl
    · simp [undecided]

theorem undecided_iff {s : CheckStatus} : undecided s = true ↔ s.severity ≤ 1 := by
  cases s <;> decide

theorem isSmartData_of_isSense (r : Request) (h : r.isSense = true) : isSmartData r = false := by
  cases r <;> first | rfl | cases h

/-- The same tables, up to lowered attributes, or none. -/
inductive LoweredRead : Except Error Attribute.Table → Except Error Attribute.Table → Prop
  | unread (e e' : Error) : LoweredRead (.error e) (.error e')
  | read {fresh worn : Bytes} {thresholds : Option Bytes} {table table' : Attribute.Table} :
      LoweredPage fresh worn → Attribute.Table.ofPages fresh thresholds = .ok table →
      Attribute.Table.ofPages worn thresholds = .ok table' → LoweredRead (.ok table) (.ok table')

theorem loweredRead_of_page {fresh worn : Bytes} (h : LoweredPage fresh worn)
    (thresholds : Option Bytes) : LoweredRead (Attribute.Table.ofPages fresh thresholds)
      (Attribute.Table.ofPages worn thresholds) := by
  by_cases hshort : fresh.size < Attribute.Table.pageLength
  · have herror : ∀ data : Bytes, data.size < Attribute.Table.pageLength →
        ∃ e, Attribute.Table.ofPages data thresholds = .error e :=
      fun _ hdata => ⟨_, if_pos hdata⟩
    obtain ⟨e, hfresh⟩ := herror fresh hshort
    obtain ⟨e', hworn⟩ := herror worn (h.size_eq ▸ hshort)
    rw [hfresh, hworn]
    exact .unread e e'
  · have hok : ∀ data : Bytes, ¬data.size < Attribute.Table.pageLength →
        ∃ table, Attribute.Table.ofPages data thresholds = .ok table :=
      fun _ hdata => ⟨_, if_neg hdata⟩
    obtain ⟨table, hfresh⟩ := hok fresh hshort
    obtain ⟨table', hworn⟩ := hok worn (h.size_eq ▸ hshort)
    rw [hfresh, hworn]
    exact .read h hfresh hworn

section Judgement

variable {device : Option (CheckStatus × StatusSource)} {a b : CheckResult}

/-- A verdict that is no less severe, and the same if nothing was decided. -/
structure Heeds (a b : CheckResult) : Prop where
  severity_le : a.status.severity ≤ b.status.severity
  undecided : undecided a.status = true → b.status = a.status

theorem Heeds.refl (a : CheckResult) : Heeds a a := ⟨Nat.le_refl _, fun _ => rfl⟩

theorem heeds_combine (h : Decided device) (family : VendorFamily) {table table' : Attribute.Table}
    (hread : LoweredRead (.ok table) (.ok table')) :
    Heeds (combine family (ofDeviceStatus device) table)
      (combine family (ofDeviceStatus device) table') := by
  cases hread with
  | @read fresh worn thresholds _ _ hpage hfresh hworn =>
    obtain ⟨worst, hworst, hsearch⟩ := Attribute.exists_worst family table.attributes
    obtain ⟨worst', hworst', hsearch'⟩ := Attribute.exists_worst family table'.attributes
    have hstatus := (judged_combine h family hworst hsearch).status
    have hstatus' := (judged_combine h family hworst' hsearch').status
    rw [thresholdsLoaded_of_ofPages hfresh] at hstatus
    rw [thresholdsLoaded_of_ofPages hworn] at hstatus'
    have hrank := hworst.rank_le hworst' (hpage.exists_lowered hfresh hworn)
    refine ⟨?_, fun hundecided => ?_⟩
    · rw [hstatus, hstatus']
      exact statusOf_mono hrank _
    · cases thresholds with
      | some page =>
        rw [hstatus] at hundecided
        cases (decided_of_compared _ _).symm.trans hundecided
      | none =>
        -- Without thresholds neither table has an attribute that trips.
        have hnone : ∀ {data : Bytes} {table : Attribute.Table}
            {worst : Option (CheckStatus × Attribute)},
            Attribute.Table.ofPages data none = .ok table →
            Attribute.Worst table.attributes worst → worst = none :=
          fun hpages hworst =>
            hworst.eq_none (Attribute.not_trips_of_mute Attribute.mute_none hpages)
        rw [hstatus, hstatus', hnone hfresh hworst, hnone hworn hworst']

end Judgement

section Runs

variable {σ τ : Type} {fresh : (r : Request) → σ → r.Reply × σ}
  {worn : (r : Request) → τ → r.Reply × τ} {R : σ → τ → Prop} (h : Wears fresh worn R)
  {s : σ} {t : τ}
include h

/-- A conversation that does not ask for the data page does not tell the drives apart. -/
theorem run_alike_of_asks {α : Type} {p : Session α}
    (hp : Asks (fun r => isSmartData r = false) p) (hst : R s t) :
    (run worn p t).1 = (run fresh p s).1 ∧ R (run fresh p s).2 (run worn p t).2 :=
  (hp.mono h.alike).run_alike hst

theorem loweredRead_readPages (hst : R s t) :
    LoweredRead (run fresh Attribute.Table.readPages s).1 (run worn Attribute.Table.readPages t).1 ∧
      R (run fresh Attribute.Table.readPages s).2 (run worn Attribute.Table.readPages t).2 := by
  have hdata : LoweredReply
      (run fresh (Session.smartReadData (.zeros Attribute.Table.pageLength)) s).1
      (run worn (Session.smartReadData (.zeros Attribute.Table.pageLength)) t).1 ∧
      R (run fresh (Session.smartReadData (.zeros Attribute.Table.pageLength)) s).2
        (run worn (Session.smartReadData (.zeros Attribute.Table.pageLength)) t).2 :=
    h.data (.zeros Attribute.Table.pageLength) s t hst
  unfold Attribute.Table.readPages
  rw [run_bind, run_bind]
  generalize run fresh (Session.smartReadData (.zeros Attribute.Table.pageLength)) s = x at hdata ⊢
  generalize run worn (Session.smartReadData (.zeros Attribute.Table.pageLength)) t = y at hdata ⊢
  obtain ⟨x, s⟩ := x
  obtain ⟨y, t⟩ := y
  obtain ⟨hreply, hst⟩ := hdata
  cases hreply with
  | failed e => exact ⟨.unread _ _, hst⟩
  | page hpage =>
    have hasks : Asks (fun r => isSmartData r = false) Attribute.Table.readThresholds :=
      Attribute.Table.asks_readThresholds rfl
    obtain ⟨hthresholds, hst⟩ := run_alike_of_asks h hasks hst
    dsimp only
    rw [run_bind, run_bind, hthresholds]
    exact ⟨loweredRead_of_page hpage _, hst⟩

theorem heeds_checkSmart (d : Drive) (hst : R s t) :
    Heeds (run fresh (checkSmart d) s).1 (run worn (checkSmart d) t).1 ∧
      R (run fresh (checkSmart d) s).2 (run worn (checkSmart d) t).2 := by
  unfold checkSmart
  by_cases henabled : d.features.smartEnabled = true
  · rw [if_pos henabled, run_bind fresh, run_bind worn]
    have hasks : Asks (fun r => isSmartData r = false) (deviceStatus d) :=
      asks_deviceStatus (P := fun r => isSmartData r = false) rfl rfl d
    obtain ⟨hdevice, hst⟩ := run_alike_of_asks h hasks hst
    have hdecided := decided_of_deviceStatus (ends_conversation fresh (deviceStatus d) s)
    have hread : Attribute.Table.read d.features = Attribute.Table.readPages := if_pos henabled
    rw [hdevice, run_bind fresh, run_bind worn, hread]
    have htables := loweredRead_readPages h hst
    generalize run fresh Attribute.Table.readPages (run fresh (deviceStatus d) s).2 = x at htables ⊢
    generalize run worn Attribute.Table.readPages (run worn (deviceStatus d) t).2 = y at htables ⊢
    obtain ⟨x, s⟩ := x
    obtain ⟨y, t⟩ := y
    obtain ⟨hread, hst⟩ := htables
    cases hread with
    | unread e e' => exact ⟨Heeds.refl _, hst⟩
    | read hpage hfresh hworn =>
      exact ⟨heeds_combine hdecided d.family (.read hpage hfresh hworn), hst⟩
  · rw [if_neg henabled]
    exact ⟨Heeds.refl _, hst⟩

theorem severity_le_check (d : Drive) (options : Options) (hst : R s t) :
    (run fresh (check d options) s).1.status.severity ≤
      (run worn (check d options) t).1.status.severity := by
  unfold check
  rw [run_bind, run_bind]
  obtain ⟨hheeds, hst⟩ := heeds_checkSmart h d hst
  generalize run fresh (checkSmart d) s = x at hheeds hst ⊢
  generalize run worn (checkSmart d) t = y at hheeds hst ⊢
  by_cases hasks : (undecided x.1.status && bridged d) = true
  · -- Nothing is decided in either run, so the bridge is asked the same in both.
    have hstatus := hheeds.undecided (Bool.and_eq_true_iff.mp hasks).1
    have hbridge : Asks (fun r => isSmartData r = false) (Scsi.check options) :=
      Scsi.asks_check isSmartData_of_isSense (fun _ _ _ => rfl) rfl options
    obtain ⟨hasked, _⟩ := run_alike_of_asks h hbridge hst
    rw [hstatus, if_pos hasks, if_pos hasks, run_bind, run_bind, hasked]
    dsimp only [run]
    split
    · exact Nat.le_of_eq (congrArg _ hstatus.symm)
    · exact Nat.le_refl _
  · have hkeeps : ¬(undecided y.1.status && bridged d) = true := by
      rw [Bool.and_eq_true, undecided_iff] at hasks ⊢
      intro ⟨hundecided, hbridged⟩
      exact hasks ⟨Nat.le_trans hheeds.severity_le hundecided, hbridged⟩
    rw [if_neg hasks, if_neg hkeeps]
    exact hheeds.severity_le

end Runs

theorem untripped_of_mute {d : Drive} {options : Options} {t : DriveTrace} {r : CheckResult}
    (h : Ends (check d options) t r)
    (hmute : ∀ reply, thresholdsEvent reply ∈ t → Mute reply.toOption) : Untripped t r := by
  have huntripped : ∀ table, Shown t table → ∀ a ∈ table.attributes, ¬Attribute.Trips a := by
    intro table hshown
    obtain ⟨data, thresholds, _, hthresholds, hpages⟩ := hshown
    exact Attribute.not_trips_of_mute (hmute thresholds hthresholds) hpages
  refine ⟨huntripped, ?_⟩
  intro trip htrip id name nominal worst threshold prefail hdetail
  rcases (grounded_of_ends_ata h).of_trip htrip with hata | ⟨hsense, _⟩
  · cases hata with
    | status source reason => cases hdetail
    | named reason hshown ha htells =>
      exact huntripped _ hshown _ ha (Attribute.tripped_iff.mp htells.tripped)
  · cases hsense with
    | intro key asc ascq reason => cases hdetail

/-- The trip rule is monotone end to end, and mute where there is nothing to compare. -/
theorem check_tripRule (d : Drive) (options : Options) : TripRule d options where
  monotone hwears _ _ hst := severity_le_check hwears d options hst
  mute h hmute := untripped_of_mute h hmute

/-- A page with one record. -/
def pageBytes (record : List UInt8) : List UInt8 :=
  [1, 0] ++ record ++ List.replicate (510 - record.length) 0

/-- A page on which an attribute under warranty has one value. -/
def dataPage (value : UInt8) : Bytes := .ofList (pageBytes [5, 1, 0, value, value])

def thresholdPage : Bytes := .ofList (pageBytes [5, 36])

/-- A drive that replies to the commands for the attribute table only. -/
def answerPages (data : Bytes) (r : Request) (s : Unit) : r.Reply × Unit :=
  match r with
  | .smartReadData _ => (.ok data, s)
  | .smartReadThresholds _ => (.ok thresholdPage, s)
  | .readLog _ _ _ _ _ | .smartReadLog _ _ | .returnStatus | .sctStatus _ | .logSense _ _ _
  | .logSenseSize _ _ | .modeSense _ _ _ _ | .modeSelect _ _ _ | .requestSense _
  | .nvmeLog _ _ _ => (.error .unsupported, s)
  | .clock => ((0 : Nat), s)
  | .pause _ => ((), s)

/-- A drive with SMART enabled. -/
def tested : Drive :=
  { (default : Drive) with
    kind := .ata, features := { smartSupported := true, smartEnabled := true } }

theorem size_dataPage (value : UInt8) : (dataPage value).size = 512 := by
  unfold dataPage pageBytes
  rw [Bytes.size_ofList, List.length_append, List.length_replicate]
  rfl

theorem byteAt_dataPage (value : UInt8) (i : Nat) :
    (dataPage value).byteAt i = (pageBytes [5, 1, 0, value, value]).getD i 0 :=
  Bytes.byteAt_ofList _ i

theorem loweredPage_dataPage : LoweredPage (dataPage 100) (dataPage 36) := by
  have hempty : ∀ value ∈ [(100 : UInt8), 36], ∀ slot < Attribute.Table.slotCount, slot ≠ 0 →
      (pageBytes [5, 1, 0, value, value]).getD (Attribute.Table.recordStart slot) 0 = 0 := by
    decide +kernel
  refine ⟨(size_dataPage 36).trans (size_dataPage 100).symm, fun slot hslot => ?_⟩
  by_cases hfirst : slot = 0
  · subst hfirst
    refine .used ?_ ?_ ?_ ?_ ?_ ?_ <;> simp only [Bytes.le16, Bytes.leNat, byteAt_dataPage] <;>
      decide
  · refine .empty ?_ ?_
    · rw [byteAt_dataPage]
      exact hempty 100 (by decide) slot hslot hfirst
    · rw [byteAt_dataPage]
      exact hempty 36 (by decide) slot hslot hfirst

theorem wears_answerPages {fresh worn : Bytes} (h : LoweredPage fresh worn) :
    Wears (answerPages fresh) (answerPages worn) fun _ _ => True where
  alike r hr s t _ := by
    cases r with
    | smartReadData buffer => cases hr
    | _ => exact ⟨rfl, trivial⟩
  data buffer s t _ := ⟨.page h, trivial⟩

/-- An attribute that comes down to its threshold turns a drive that passes into one that fails. -/
theorem check_tripRule_dataPage :
    (run (answerPages (dataPage 100)) (check tested ⟨0⟩) ()).1.status = .pass ∧
      (run (answerPages (dataPage 36)) (check tested ⟨0⟩) ()).1.status = .fail ∧
      (run (answerPages (dataPage 100)) (check tested ⟨0⟩) ()).1.status.severity ≤
        (run (answerPages (dataPage 36)) (check tested ⟨0⟩) ()).1.status.severity := by
  refine ⟨by decide +kernel, by decide +kernel, ?_⟩
  exact (check_tripRule tested ⟨0⟩).monotone (wears_answerPages loweredPage_dataPage) trivial

end DriveHealth.Check.Ata
