import DriveHealth.Proofs.Attribute.Quantities
import DriveHealth.Proofs.Text.Lines
import DriveHealth.Units

/-!
Numbers with their units. A number is told apart by its digits and its sign from any other one, so
two temperatures that read the same are the same, and no quantity runs over the end of a line.
-/
namespace DriveHealth

namespace Text

open Attribute

theorem toList_decimal_append_inj {m n : Nat} {c : Char} {r s : List Char}
    (hc : c.isDigit = false) (h : (decimal m).toList ++ c :: r = (decimal n).toList ++ c :: s) :
    m = n := by
  have hscan := congrArg (scan none) h
  rw [scan_decimal, scan_decimal, scan_some_plain hc, scan_some_plain hc] at hscan
  exact congrArg Quantity.value (List.cons.inj hscan).1

theorem toList_decimal_append_ne_minus (n : Nat) (r s : List Char) :
    (decimal n).toList ++ r ≠ '-' :: s := by
  have hdigits : ∀ d ∈ Nat.toDigits 10 n, d.isDigit = true :=
    fun d hd => Nat.isDigit_of_mem_toDigits (by decide) (by decide) hd
  intro h
  rw [decimal, String.toList_ofList] at h
  cases hds : Nat.toDigits 10 n with
  | nil => exact Nat.toDigits_ne_nil hds
  | cons d ds =>
    rw [hds] at h hdigits
    have hminus := hdigits d List.mem_cons_self
    rw [(List.cons.inj h).1] at hminus
    exact absurd hminus (by decide)

theorem toList_integer (i : Int) :
    (integer i).toList = (if i < 0 then ['-'] else []) ++ (decimal i.natAbs).toList := by
  unfold integer
  split
  · rw [String.toList_append]
    rfl
  · rw [List.nil_append]

/-- A sign and digits tell the number. -/
theorem toList_integer_append_inj {i j : Int} {c : Char} {r s : List Char}
    (hc : c.isDigit = false) (h : (integer i).toList ++ c :: r = (integer j).toList ++ c :: s) :
    i = j := by
  rw [toList_integer, toList_integer, List.append_assoc, List.append_assoc] at h
  by_cases hi : i < 0 <;> by_cases hj : j < 0
  · rw [if_pos hi, if_pos hj, List.append_cancel_left_eq] at h
    have habs := toList_decimal_append_inj hc h
    omega
  · rw [if_pos hi, if_neg hj] at h
    exact absurd h.symm (toList_decimal_append_ne_minus _ _ _)
  · rw [if_neg hi, if_pos hj] at h
    exact absurd h (toList_decimal_append_ne_minus _ _ _)
  · rw [if_neg hi, if_neg hj, List.append_cancel_left_eq] at h
    have habs := toList_decimal_append_inj hc h
    omega

end Text

namespace Units

open Text

theorem temperature_injective : Function.Injective temperature := by
  intro c d h
  have hlists := congrArg String.toList h
  simp only [temperature, String.toList_append, List.append_assoc] at hlists
  exact toList_integer_append_inj (c := ' ') (by decide) hlists

theorem oneLine_render (places : Nat) (q : Rat) : OneLine (Number.Fixed.render places q) := by
  have hsign : OneLine (if q.num < 0 then "-" else "") :=
    oneLine_ite (oneLine_ofList (by decide)) (oneLine_ofList (by decide))
  unfold Number.Fixed.render
  apply oneLine_ite
  · simp only [oneLine_append, hsign, oneLine_decimal, and_self]
  · simp only [oneLine_append, hsign, oneLine_decimal, oneLine_zeroPadded, and_true, true_and]
    exact oneLine_ofList (by decide)

@[simp] theorem oneLine_temperature (c : Int) : OneLine (temperature c) := by
  simp only [temperature, oneLine_append, oneLine_integer, oneLine_render, and_true, true_and]
  and_intros <;> exact oneLine_ofList (by decide)

@[simp] theorem oneLine_bytes (n : Nat) : OneLine (bytes n) := by
  have hunits : ∀ u ∈ byteUnits, OneLine u.2 := by
    unfold byteUnits
    simp only [List.forall_mem_cons, List.not_mem_nil, IsEmpty.forall_iff, implies_true, and_true]
    and_intros <;> exact oneLine_ofList (by decide)
  unfold bytes
  dsimp only
  split
  · rename_i u name hunit
    have hname := hunits _ (List.mem_of_find?_eq_some hunit)
    simp only [oneLine_append, oneLine_render, hname, and_true, true_and]
    exact oneLine_ofList (by decide)
  · simp only [oneLine_append, oneLine_render, true_and]
    exact oneLine_ofList (by decide)

end Units
end DriveHealth
