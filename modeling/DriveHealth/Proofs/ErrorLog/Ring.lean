import DriveHealth.ErrorLog.Walk
import Mathlib.Data.Int.ModEq
import Mathlib.Data.List.Nodup

/-!
The slots of a ring, backwards from one of them. Stepping back slot by slot goes around the ring
as subtraction does modulo its capacity, so no slot is met twice in one turn.
-/
namespace DriveHealth.ErrorLog.Walk

variable {capacity slot n : Nat}

theorem previous_lt (h : slot < capacity) : previous capacity slot < capacity := by
  unfold previous
  split <;> omega

/-- The slots from one on, backwards around the ring. -/
def slotsFrom (capacity : Nat) : Nat → Nat → List Nat
  | 0, _ => []
  | n + 1, slot => slot :: slotsFrom capacity n (previous capacity slot)

/-- The slot so many steps back from one. -/
def back (capacity slot k : Nat) : Nat := (((slot : Int) - k) % capacity).toNat

theorem back_zero (h : slot < capacity) : back capacity slot 0 = slot := by
  have hmod : (slot : Int) % capacity = slot := Int.emod_eq_of_lt (by omega) (by omega)
  rw [back, Int.natCast_zero, Int.sub_zero, hmod, Int.toNat_natCast]

theorem back_previous (h : slot < capacity) (k : Nat) :
    back capacity (previous capacity slot) k = back capacity slot (k + 1) := by
  unfold back previous
  by_cases hzero : slot = 0
  · have hwrap : ((capacity - 1 : Nat) : Int) - k = ((slot : Int) - (k + 1 : Nat)) + capacity := by
      omega
    rw [if_pos hzero, hwrap, Int.add_emod_right]
  · have hstep : ((slot - 1 : Nat) : Int) - k = (slot : Int) - (k + 1 : Nat) := by
      omega
    rw [if_neg hzero, hstep]

theorem slotsFrom_eq_map (h : slot < capacity) :
    slotsFrom capacity n slot = (List.range n).map (back capacity slot) := by
  induction n generalizing slot with
  | zero => rfl
  | succ n ih =>
    have hrest : back capacity (previous capacity slot) = back capacity slot ∘ Nat.succ :=
      funext (back_previous h)
    rw [slotsFrom, ih (previous_lt h), List.range_succ_eq_map, List.map_cons, back_zero h,
      List.map_map, hrest]

/-- Within one turn no slot comes back. -/
theorem back_injective {j k : Nat} (hj : j < capacity) (hk : k < capacity)
    (h : back capacity slot j = back capacity slot k) : j = k := by
  have hpos : (capacity : Int) ≠ 0 := by omega
  have hmod : ((slot : Int) - j) % capacity = ((slot : Int) - k) % capacity := by
    have hj' := Int.emod_nonneg ((slot : Int) - j) hpos
    have hk' := Int.emod_nonneg ((slot : Int) - k) hpos
    unfold back at h
    omega
  have hdvd : (capacity : Int) ∣ (k : Int) - j := by
    have hsub := Int.ModEq.dvd (show (slot : Int) - k ≡ slot - j [ZMOD capacity] from hmod.symm)
    have heq : (slot : Int) - j - (slot - k) = (k : Int) - j := by omega
    rwa [heq] at hsub
  have hzero : (k : Int) - j = 0 := Int.eq_zero_of_abs_lt_dvd hdvd (by rw [abs_lt]; omega)
  omega

theorem nodup_slotsFrom (h : slot < capacity) (hn : n ≤ capacity) :
    (slotsFrom capacity n slot).Nodup := by
  rw [slotsFrom_eq_map h]
  refine List.Nodup.map_on ?_ List.nodup_range
  intro j hj k hk heq
  rw [List.mem_range] at hj hk
  exact back_injective (hj.trans_le hn) (hk.trans_le hn) heq

end DriveHealth.ErrorLog.Walk
