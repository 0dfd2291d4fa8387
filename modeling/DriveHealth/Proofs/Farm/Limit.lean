import DriveHealth.Proofs.Farm.ByteExact

/-!
The limit of four gibibytes. A layout bounds the length of each payload and its start, but not its
end. Every payload but the last one ends before another starts, so only the last may reach past
the limit, and it does so exactly when the whole file does. Then the sum of its offset and its
length is no word of 32 bits.
-/
namespace DriveHealth.Farm

theorem toNat_add_eq_iff (a b : UInt32) :
    (a + b).toNat = a.toNat + b.toNat ↔ a.toNat + b.toNat < 2 ^ 32 := by
  rw [UInt32.toNat_add, Nat.mod_eq_iff_lt (by decide)]

namespace Layout

namespace Tiles

variable {offset stop : Nat} {l : List Dataset} {ps : List Placement}

/-- Behind every payload but the last one another one starts. -/
theorem stop_lt_of_mem_dropLast (h : Tiles offset l ps stop) :
    ∀ p ∈ ps.dropLast, p.stop < 2 ^ 32 := by
  induction h with
  | nil offset => simp
  | last hholds hpad => simp
  | @cons offset stop d e r p ps hholds hpad htail ih =>
    rw [List.dropLast_cons_of_ne_nil htail.ne_nil, List.forall_mem_cons]
    refine ⟨?_, ih⟩
    cases ps with
    | nil => exact absurd rfl htail.ne_nil
    | cons q qs =>
      have hstart : q.start = p.stop + p.padding := htail.start_of_head q rfl
      have hword : q.start < 2 ^ 32 := q.descriptor.offset.toNat_lt
      omega

/-- The last payload ends where the file ends. -/
theorem stop_of_getLast (h : Tiles offset l ps stop) : ∀ p ∈ ps.getLast?, p.stop = stop := by
  induction h with
  | nil offset => simp
  | last hholds hpad => simp
  | cons hholds hpad htail ih => rwa [List.getLast?_cons_of_ne_nil htail.ne_nil]

theorem stop_eq_of_nil (h : Tiles offset l [] stop) : l = [] ∧ stop = offset := by
  cases h
  exact ⟨rfl, rfl⟩

theorem add_sum_sizes_le_stop (h : Tiles offset l ps stop) :
    offset + (l.map fun d => d.payload.size).sum ≤ stop := by
  induction h with
  | nil offset => exact Nat.le_refl _
  | last hholds hpad =>
    simp only [List.map_cons, List.map_nil, List.sum_cons, List.sum_nil, hholds.stop_eq]
    omega
  | cons hholds hpad htail ih =>
    have hstop := hholds.stop_eq
    rw [List.map_cons, List.sum_cons]
    omega

end Tiles

section Plan

variable {l : List Dataset} {y : Layout}

theorem firstStart_nil : firstStart [] = 512 := by
  have hpadding : padding 256 = 256 := padding_eq_of_dvd (by omega) (by omega)
  rw [firstStart, List.length_nil, tableLength, Nat.mul_zero, Nat.add_zero, hpadding]

/-- A file ends with its last payload, and without any behind its header. -/
theorem fileSize_cases (h : plan l = .ok y) :
    y.placements = [] ∧ y.fileSize = 512 ∨ ∃ p ∈ y.placements, p.stop = y.fileSize := by
  have htiles := (tiles_of_plan h).1
  cases hlast : y.placements.getLast? with
  | none =>
    have hnone : y.placements = [] := List.getLast?_eq_none_iff.mp hlast
    rw [hnone] at htiles
    obtain ⟨rfl, hsize⟩ := htiles.stop_eq_of_nil
    exact .inl ⟨hnone, hsize.trans firstStart_nil⟩
  | some p =>
    exact .inr ⟨p, List.mem_of_getLast? hlast, htiles.stop_of_getLast p hlast⟩

theorem forall_sums_lt_iff_stop (n : Nat) :
    (∀ d ∈ y.descriptors, d.offset.toNat + d.length.toNat < n) ↔
      ∀ p ∈ y.placements, p.stop < n :=
  List.forall_mem_map

theorem sums_lt_iff (h : plan l = .ok y) :
    (∀ d ∈ y.descriptors, d.offset.toNat + d.length.toNat < 2 ^ 32) ↔ y.fileSize < 2 ^ 32 := by
  rw [forall_sums_lt_iff_stop]
  constructor
  · intro hsums
    rcases fileSize_cases h with ⟨_, hsize⟩ | ⟨p, hp, hstop⟩
    · omega
    · rw [← hstop]
      exact hsums p hp
  · intro hsize p hp
    exact ((tiles_of_plan h).1.stop_le_stop p hp).trans_lt hsize

theorem fileSize_lt (h : plan l = .ok y) : y.fileSize < 2 ^ 33 := by
  rcases fileSize_cases h with ⟨_, hsize⟩ | ⟨p, _, hstop⟩
  · omega
  · have hoffset := p.descriptor.offset.toNat_lt
    have hlength := p.descriptor.length.toNat_lt
    unfold Placement.stop Placement.start at hstop
    omega

theorem sum_sizes_le_fileSize (h : plan l = .ok y) :
    (l.map fun d => d.payload.size).sum ≤ y.fileSize := by
  have hle := (tiles_of_plan h).1.add_sum_sizes_le_stop
  omega

/-- What a layout keeps to the limit, and what it does not. -/
structure Limited (y : Layout) : Prop where
  sums_lt_iff : (∀ d ∈ y.descriptors, d.offset.toNat + d.length.toNat < 2 ^ 32) ↔
    y.fileSize < 2 ^ 32
  /-- The sums of words wrap exactly in a file past the limit. -/
  word_sums_iff : (∀ d ∈ y.descriptors,
    (d.offset + d.length).toNat = d.offset.toNat + d.length.toNat) ↔ y.fileSize < 2 ^ 32
  before_last : ∀ d ∈ y.descriptors.dropLast, d.offset.toNat + d.length.toNat < 2 ^ 32
  file_size : y.fileSize < 2 ^ 33

/-- The payloads of a layout end below four gibibytes exactly when the file is shorter. -/
theorem plan_limited (h : plan l = .ok y) : Limited y where
  sums_lt_iff := sums_lt_iff h
  word_sums_iff := by
    simp only [toNat_add_eq_iff]
    exact sums_lt_iff h
  before_last := by
    rw [descriptors, ← List.map_dropLast]
    exact List.forall_mem_map.mpr (tiles_of_plan h).1.stop_lt_of_mem_dropLast
  file_size := fileSize_lt h

end Plan

section Overfull

/-- Payloads that need no padding start one at the end of the other. -/
theorem starts_replicate_le {offset n : Nat} (hoffset : 512 ∣ offset) (hn : 512 ∣ n) (k : Nat) :
    ∀ s ∈ starts offset (List.replicate k n), s + n ≤ offset + k * n := by
  induction k generalizing offset with
  | zero => simp [starts]
  | succ k ih =>
    have hnone : padding (offset + n) = 0 := padding_eq_of_dvd (by omega) (by omega)
    rw [List.replicate_succ, starts, hnone, Nat.add_zero, List.forall_mem_cons, Nat.succ_mul]
    refine ⟨by omega, ?_⟩
    intro s hs
    have hle := ih (Nat.dvd_add hoffset hn) s hs
    omega

/-- Sixty-four payloads of as many mebibytes fill the limit alone. -/
def overfull : List Dataset := List.replicate 64 ⟨.current, .zeros (2 ^ 26), 0, 0⟩

theorem sizes_overfull :
    (overfull.map fun d => d.payload.size) = List.replicate 64 (2 ^ 26) := by
  rw [overfull, List.map_replicate, Bytes.size_zeros]

theorem fits_overfull : Fits overfull where
  count := by
    rw [overfull, List.length_replicate]
    omega
  length := by
    intro d hd
    rw [(List.mem_replicate.mp hd).2, Bytes.size_zeros]
    omega
  start := by
    intro s hs
    rw [sizes_overfull] at hs
    have hpadding : padding 2304 = 256 := padding_eq_of_dvd (by omega) (by omega)
    have hfirst : firstStart overfull = 2560 := by
      rw [firstStart, overfull, List.length_replicate, tableLength, hpadding]
    have hle := starts_replicate_le (firstStart_dvd overfull) (by omega) 64 s hs
    omega

theorem le_fileSize_of_plan_overfull {y : Layout} (h : plan overfull = .ok y) :
    2 ^ 32 ≤ y.fileSize := by
  have hle := sum_sizes_le_fileSize h
  rw [sizes_overfull, List.sum_replicate_nat] at hle
  omega

theorem plan_limited_overfull : ∃ y, plan overfull = .ok y ∧ Limited y := by
  obtain ⟨y, hplan⟩ := (exists_plan_iff overfull).mpr fits_overfull
  exact ⟨y, hplan, plan_limited hplan⟩

/-- A layout that is not refused may end behind the limit. -/
theorem not_plan_sums_lt : ¬ ∀ (l : List Dataset) (y : Layout), plan l = .ok y →
    ∀ d ∈ y.descriptors, d.offset.toNat + d.length.toNat < 2 ^ 32 := by
  intro h
  obtain ⟨y, hplan⟩ := (exists_plan_iff overfull).mpr fits_overfull
  have hsize : y.fileSize < 2 ^ 32 := (sums_lt_iff hplan).mp (h overfull y hplan)
  exact absurd (le_fileSize_of_plan_overfull hplan) (Nat.not_le.mpr hsize)

end Overfull

end Layout
end DriveHealth.Farm
