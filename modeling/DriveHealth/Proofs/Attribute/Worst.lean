import DriveHealth.Proofs.Attribute.Trip

/-!
The attribute that decides the verdict on a table: the first one that fails, or if none fails the
first one that trips. An attribute fails if it trips and is under warranty, or if its threshold
always fails.
-/
namespace DriveHealth.Attribute

/-- Its own threshold crosses an attribute. -/
def Trips (a : Attribute) : Prop :=
  ∃ threshold, a.threshold = some threshold ∧ Crosses threshold a.nominal a.worst

/-- A trip that is a failure, not a warning. -/
def Fails (a : Attribute) : Prop := Trips a ∧ (a.prefail = true ∨ a.threshold = some 0xFF)

/-- The first most severe trip of some attributes, and what it is. -/
inductive Worst (l : List Attribute) : Option (CheckStatus × Attribute) → Prop
  | untripped : (∀ a ∈ l, ¬Trips a) → Worst l none
  | warning (before after : List Attribute) (a : Attribute) : l = before ++ a :: after →
      Trips a → (∀ b ∈ before, ¬Trips b) → (∀ b ∈ l, ¬Fails b) → Worst l (some (.warning, a))
  | fail (before after : List Attribute) (a : Attribute) : l = before ++ a :: after →
      Fails a → (∀ b ∈ before, ¬Fails b) → Worst l (some (.fail, a))

variable {a : Attribute} {l : List Attribute} {family : VendorFamily}

theorem tripped_iff : a.tripState.tripped = true ↔ Trips a := by
  cases hthreshold : a.threshold with
  | none =>
    have hok : a.tripState = .ok := by
      rw [tripState, hthreshold]
      rfl
    rw [hok]
    refine iff_of_false Bool.false_ne_true ?_
    rintro ⟨threshold, hsome, _⟩
    rw [hthreshold] at hsome
    cases hsome
  | some threshold =>
    rw [tripped_of_threshold hthreshold]
    constructor
    · intro hcrosses
      exact ⟨threshold, hthreshold, hcrosses⟩
    · rintro ⟨other, hother, hcrosses⟩
      rw [hthreshold] at hother
      cases hother
      exact hcrosses

/-- No comparison fails always. -/
theorem compare_ne_alwaysFailing (a : Attribute) (threshold : UInt8) :
    a.compare threshold ≠ .alwaysFailing := by
  unfold compare
  split
  · nofun
  · split
    · nofun
    · split <;> nofun

theorem alwaysFailing_iff : a.tripState = .alwaysFailing ↔ a.threshold = some 0xFF := by
  cases hthreshold : a.threshold with
  | none => simp [tripState, hthreshold]
  | some threshold =>
    rw [tripState, hthreshold, Option.map_some, Threshold.ofByte]
    by_cases hzero : threshold = 0
    · simp [hzero]
    · by_cases halways : threshold = 0xFF
      · simp [halways]
      · by_cases hinvalid : threshold = 0xFE
        · simp [hinvalid]
        · simp [hzero, halways, hinvalid, compare_ne_alwaysFailing]

theorem tripStatus_eq_fail_iff (h : Trips a) : a.tripStatus = .fail ↔ Fails a := by
  have hfails : (a.tripState == .alwaysFailing || a.prefail) = true ↔
      a.prefail = true ∨ a.threshold = some 0xFF := by
    rw [Bool.or_eq_true, beq_iff_eq, alwaysFailing_iff, or_comm]
  unfold Fails tripStatus
  rw [← hfails]
  split
  · rename_i hstate
    exact iff_of_true rfl ⟨h, hstate⟩
  · rename_i hstate
    exact iff_of_false nofun fun hboth => hstate hboth.2

theorem trip?_of_not_trips (h : ¬Trips a) : a.trip? family = none := by
  have hok : a.tripState = .ok := by
    refine Classical.byContradiction fun hstate => h (tripped_iff.mp ?_)
    rw [TripState.tripped, bne_iff_ne]
    exact hstate
  unfold trip?
  rw [hok]
  cases a.threshold <;> rfl

theorem trip?_of_trips (family : VendorFamily) (h : Trips a) :
    ∃ trip, a.trip? family = some (a.tripStatus, trip) := by
  have ⟨threshold, hthreshold, _⟩ := h
  have hreason : ∃ reason, tripReason family a threshold a.tripState = some reason := by
    cases hstate : a.tripState with
    | ok =>
      rw [← tripped_iff, hstate] at h
      cases h
    | failing => exact ⟨_, rfl⟩
    | previouslyFailed => exact ⟨_, rfl⟩
    | alwaysFailing => exact ⟨_, rfl⟩
  obtain ⟨reason, hreason⟩ := hreason
  unfold trip?
  rw [hthreshold, Option.bind_eq_bind, Option.bind_some, hreason]
  exact ⟨_, rfl⟩

namespace Worst

variable {worst : Option (CheckStatus × Attribute)} {s : CheckStatus}

theorem cons_of_not_trips (h : Worst l worst) (ha : ¬Trips a) : Worst (a :: l) worst := by
  cases h with
  | untripped hl => exact .untripped (List.forall_mem_cons.mpr ⟨ha, hl⟩)
  | warning before after b hsplit htrips hbefore hl =>
    refine .warning (a :: before) after b (congrArg (a :: ·) hsplit) htrips ?_ ?_
    · exact List.forall_mem_cons.mpr ⟨ha, hbefore⟩
    · exact List.forall_mem_cons.mpr ⟨fun hfails => ha hfails.1, hl⟩
  | fail before after b hsplit hfails hbefore =>
    refine .fail (a :: before) after b (congrArg (a :: ·) hsplit) hfails ?_
    exact List.forall_mem_cons.mpr ⟨fun hfails => ha hfails.1, hbefore⟩

theorem head (ha : Trips a) (hl : a.tripStatus = .warning → ∀ b ∈ l, ¬Fails b) :
    Worst (a :: l) (some (a.tripStatus, a)) := by
  rcases a.tripStatus_eq with hwarning | hfail
  · have hnot : ¬Fails a := by
      rw [← tripStatus_eq_fail_iff ha, hwarning]
      nofun
    rw [hwarning]
    exact .warning [] l a rfl ha (List.forall_mem_nil _)
      (List.forall_mem_cons.mpr ⟨hnot, hl hwarning⟩)
  · rw [hfail]
    exact .fail [] l a rfl ((tripStatus_eq_fail_iff ha).mp hfail) (List.forall_mem_nil _)

/-- Of an attribute and a later one the first counts, unless the later one is more severe. -/
theorem cons_of_trips (h : Worst l worst) (ha : Trips a) : Worst (a :: l)
    (match worst with
      | none => some (a.tripStatus, a)
      | some w =>
        if a.tripStatus.severity < w.1.severity then some w else some (a.tripStatus, a)) := by
  cases h with
  | untripped hl => exact head ha fun _ b hb hfails => hl b hb hfails.1
  | warning _ _ _ _ _ _ hl =>
    have hnot : ¬a.tripStatus.severity < CheckStatus.warning.severity := by
      rcases a.tripStatus_eq with hwarning | hfail
      · simp [hwarning]
      · simp [hfail, CheckStatus.severity]
    dsimp only
    rw [if_neg hnot]
    exact head ha fun _ => hl
  | fail before after b hsplit hfails hbefore =>
    dsimp only
    rcases a.tripStatus_eq with hwarning | hfail
    · have hnot : ¬Fails a := by
        rw [← tripStatus_eq_fail_iff ha, hwarning]
        nofun
      rw [if_pos (by simp [hwarning, CheckStatus.severity])]
      exact .fail (a :: before) after b (congrArg (a :: ·) hsplit) hfails
        (List.forall_mem_cons.mpr ⟨hnot, hbefore⟩)
    · rw [if_neg (by simp [hfail])]
      exact head ha fun hwarning => nomatch hfail.symm.trans hwarning

theorem tripStatus_eq (h : Worst l (some (s, a))) : Trips a ∧ s = a.tripStatus := by
  cases h with
  | warning _ _ _ hsplit htrips _ hl =>
    have hnot := hl a (hsplit ▸ List.mem_append_right _ List.mem_cons_self)
    rcases a.tripStatus_eq with hwarning | hfail
    · exact ⟨htrips, hwarning.symm⟩
    · exact absurd ((tripStatus_eq_fail_iff htrips).mp hfail) hnot
  | fail _ _ _ _ hfails _ => exact ⟨hfails.1, ((tripStatus_eq_fail_iff hfails.1).mpr hfails).symm⟩

theorem eq_none (h : Worst l worst) (hl : ∀ a ∈ l, ¬Trips a) : worst = none := by
  cases h with
  | untripped _ => rfl
  | warning _ _ a hsplit htrips _ _ =>
    exact absurd htrips (hl a (hsplit ▸ List.mem_append_right _ List.mem_cons_self))
  | fail _ _ a hsplit hfails _ =>
    exact absurd hfails.1 (hl a (hsplit ▸ List.mem_append_right _ List.mem_cons_self))

end Worst

/-- The search finds the first most severe trip. -/
theorem exists_worst (family : VendorFamily) (l : List Attribute) : ∃ worst, Worst l worst ∧
    mostSevere (l.filterMap (trip? family)) = worst.bind (fun w => w.2.trip? family) := by
  induction l with
  | nil => exact ⟨none, .untripped (List.forall_mem_nil _), rfl⟩
  | cons a rest ih =>
    obtain ⟨worst, hworst, hsearch⟩ := ih
    by_cases ha : Trips a
    · refine ⟨_, hworst.cons_of_trips ha, ?_⟩
      obtain ⟨trip, htrip⟩ := trip?_of_trips family ha
      rw [List.filterMap_cons, htrip]
      dsimp only
      rw [mostSevere, hsearch]
      cases worst with
      | none => exact htrip.symm
      | some w =>
        obtain ⟨s, b⟩ := w
        obtain ⟨hb, rfl⟩ := hworst.tripStatus_eq
        obtain ⟨other, hother⟩ := trip?_of_trips family hb
        dsimp only [Option.bind_some]
        rw [hother]
        dsimp only
        split
        · exact hother.symm
        · exact htrip.symm
    · refine ⟨worst, hworst.cons_of_not_trips ha, ?_⟩
      rw [List.filterMap_cons, trip?_of_not_trips ha]
      exact hsearch

end DriveHealth.Attribute
