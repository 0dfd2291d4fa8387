import DriveHealth.Attribute.Trip

/-!
The attributes that trip. An attribute trips exactly when its own threshold crosses it: the
threshold always fails, or it is a number that the nominal or the worst value does not exceed. The
verdict on a table comes from one of its attributes, and that one has tripped.
-/
namespace DriveHealth.Attribute

/-- A threshold that always fails, or a number that one of two values in range does not exceed. -/
inductive Crosses (threshold nominal worst : UInt8) : Prop
  | always : threshold = 0xFF → Crosses threshold nominal worst
  | compared : threshold ≠ 0 → threshold ≠ 0xFE → inRange nominal = true →
      inRange worst = true → nominal ≤ threshold ∨ worst ≤ threshold →
      Crosses threshold nominal worst

theorem tripped_compare_iff {a : Attribute} {threshold : UInt8} :
    (a.compare threshold).tripped = true ↔ inRange a.nominal = true ∧ inRange a.worst = true ∧
      (a.nominal ≤ threshold ∨ a.worst ≤ threshold) := by
  unfold compare
  cases hnominal : inRange a.nominal with
  | false => simp [TripState.tripped]
  | true =>
    cases hworst : inRange a.worst with
    | false => simp [TripState.tripped]
    | true =>
      by_cases hbelow : a.nominal ≤ threshold
      · simp [TripState.tripped, hbelow]
      · by_cases hever : a.worst ≤ threshold
        · simp [TripState.tripped, hbelow, hever]
        · simp [TripState.tripped, hbelow, hever]

theorem tripped_of_threshold {a : Attribute} {t : UInt8} (h : a.threshold = some t) :
    a.tripState.tripped = true ↔ Crosses t a.nominal a.worst := by
  rw [tripState, h, Option.map_some, Threshold.ofByte]
  by_cases hzero : t = 0
  · rw [if_pos hzero, hzero]
    refine iff_of_false Bool.false_ne_true ?_
    rintro (halways | ⟨hnumber, -, -, -, -⟩)
    · cases halways
    · exact hnumber rfl
  · rw [if_neg hzero]
    by_cases halways : t = 0xFF
    · rw [if_pos halways]
      exact iff_of_true rfl (.always halways)
    · rw [if_neg halways]
      by_cases hinvalid : t = 0xFE
      · rw [if_pos hinvalid]
        refine iff_of_false Bool.false_ne_true ?_
        rintro (hfailing | ⟨-, hnumber, -, -, -⟩)
        · exact halways hfailing
        · exact hnumber hinvalid
      · rw [if_neg hinvalid]
        refine tripped_compare_iff.trans ⟨?_, ?_⟩
        · rintro ⟨hnominal, hworst, hcrossed⟩
          exact .compared hzero hinvalid hnominal hworst hcrossed
        · rintro (hfailing | ⟨-, -, hnominal, hworst, hcrossed⟩)
          · exact absurd hfailing halways
          · exact ⟨hnominal, hworst, hcrossed⟩

/-- A trip detail tells what an attribute is, and its own threshold, which it has crossed. -/
inductive Tells (family : VendorFamily) (a : Attribute) : TripDetail → Prop
  | intro (threshold : UInt8) : a.threshold = some threshold →
      Crosses threshold a.nominal a.worst →
      Tells family a
        (.attribute a.id (name? family a.id) a.nominal a.worst threshold a.prefail)

theorem Tells.tripped {family : VendorFamily} {a : Attribute} {detail : TripDetail}
    (h : Tells family a detail) : a.tripState.tripped = true := by
  obtain ⟨threshold, hthreshold, hcrosses⟩ := h
  exact (tripped_of_threshold hthreshold).mpr hcrosses

theorem tripStatus_eq (a : Attribute) : a.tripStatus = .warning ∨ a.tripStatus = .fail := by
  unfold tripStatus
  split
  · exact .inr rfl
  · exact .inl rfl

theorem tripReason_isSome {family : VendorFamily} {a : Attribute} {threshold : UInt8}
    {reason : String} (h : tripReason family a threshold a.tripState = some reason) :
    a.tripState.tripped = true := by
  cases hstate : a.tripState with
  | ok =>
    rw [hstate] at h
    cases h
  | failing => rfl
  | previouslyFailed => rfl
  | alwaysFailing => rfl

theorem tells_of_trip {family : VendorFamily} {a : Attribute} {s : CheckStatus} {trip : Trip}
    (h : a.trip? family = some (s, trip)) :
    s = a.tripStatus ∧ trip.protocol = .ata ∧ Tells family a trip.detail := by
  unfold trip? at h
  obtain ⟨threshold, hthreshold, hrest⟩ := Option.bind_eq_some_iff.mp h
  obtain ⟨reason, hreason, hdone⟩ := Option.bind_eq_some_iff.mp hrest
  cases hdone
  have htripped := (tripped_of_threshold hthreshold).mp (tripReason_isSome hreason)
  exact ⟨rfl, rfl, .intro threshold hthreshold htripped⟩

/-- The most severe of several is one of them. -/
theorem mem_of_mostSevere {l : List (CheckStatus × Trip)} {x : CheckStatus × Trip}
    (h : mostSevere l = some x) : x ∈ l := by
  induction l with
  | nil => cases h
  | cons t rest ih =>
    rw [mostSevere] at h
    cases hrest : mostSevere rest with
    | none =>
      rw [hrest] at h
      cases h
      exact List.mem_cons_self
    | some u =>
      rw [hrest] at h
      dsimp only at h
      split at h
      · cases h
        exact List.mem_cons_of_mem _ (ih hrest)
      · cases h
        exact List.mem_cons_self

theorem exists_of_worstTrip {family : VendorFamily} {table : Table} {s : CheckStatus}
    {trip : Trip} (h : table.worstTrip? family = some (s, trip)) :
    ∃ a ∈ table.attributes, s = a.tripStatus ∧ trip.protocol = .ata ∧
      Tells family a trip.detail := by
  obtain ⟨a, ha, htrip⟩ := List.mem_filterMap.mp (mem_of_mostSevere h)
  exact ⟨a, ha, tells_of_trip htrip⟩

end DriveHealth.Attribute
