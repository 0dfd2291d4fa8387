import DriveHealth.Bytes.Span
import Mathlib.Algebra.BigOperators.Ring.Finset
import Mathlib.Data.List.GetD
import Mathlib.Data.Nat.Dist
import Mathlib.Order.Interval.Finset.Nat

/-!
Spans as weighted sums. A span is read from its least significant byte outward, in whichever
direction its other end lies, so its number is the sum of its bytes, each weighted by the distance
from the least significant one. The number does not change when the list and both ends are turned
around. Shifting the bytes into a word of 64 bits gives the same number, and no byte is asked for
that the list does not have.
-/
namespace DriveHealth.Bytes.Span

/-- The places of a span: all between its ends, but only the eight nearest the second one. -/
def places (msb lsb : Nat) : Finset Nat :=
  {i ∈ Finset.Icc (min msb lsb) (max msb lsb) | Nat.dist i lsb < 8}

/-- The bytes at the places, each weighted by its distance from the least significant one. -/
def weighed (bytes : List UInt8) (msb lsb : Nat) : Nat :=
  ∑ i ∈ places msb lsb, 256 ^ Nat.dist i lsb * (bytes.getD i 0).toNat

/-- The number of a span that lies in the list. -/
structure Exact (bytes : List UInt8) (msb lsb value : Nat) : Prop where
  inside : ∀ i ∈ places msb lsb, i < bytes.length
  card_eq : (places msb lsb).card = min 8 (Nat.dist msb lsb + 1)
  value_eq : value = weighed bytes msb lsb
  value_lt : value < 256 ^ (places msb lsb).card

/-- An index past the end falls on the last byte. -/
def clamp (bytes : List UInt8) (i : Nat) : Nat := min i (bytes.length - 1)

/-! Words. The walk starts at the most significant byte, and each access is checked. -/

/-- A byte enters a word at its low end, and the highest byte leaves it. -/
def shiftIn (word : UInt64) (b : UInt8) : UInt64 := word <<< 8 ||| b.toUInt64

/-- The places of a span on the way from the most significant byte to the least significant one. -/
def descent (msb lsb : Nat) : List Nat :=
  if lsb ≤ msb then (List.range' lsb (min msb (lsb + 7) - lsb + 1)).reverse
  else List.range' (max msb (lsb - 7)) (lsb - max msb (lsb - 7) + 1)

/-- Shifts in the byte at a place, and has no answer if the list has none there. -/
def shiftInAt? (bytes : List UInt8) (word : UInt64) (i : Nat) : Option UInt64 :=
  bytes[i]?.map (shiftIn word)

def readWord? (bytes : List UInt8) (msb lsb : Nat) : Option UInt64 :=
  if bytes = [] then some 0
  else if bytes.length ≤ msb ∧ bytes.length ≤ lsb then some 0xFFFFFFFFFFFFFFFF
  else (descent (clamp bytes msb) (clamp bytes lsb)).foldlM (shiftInAt? bytes) 0

/-! The walk outward. Both directions are one here: the places are numbered by their distance. -/

/-- The place so many steps from the least significant byte toward the most significant one. -/
def toward (msb lsb k : Nat) : Nat := if lsb ≤ msb then lsb + k else lsb - k

/-- The number of places. -/
def width (msb lsb : Nat) : Nat := min 8 (Nat.dist msb lsb + 1)

/-- The bytes of a span, the least significant one first. -/
def outward (bytes : List UInt8) (msb lsb : Nat) : List UInt8 :=
  (List.range (width msb lsb)).map fun k => bytes.getD (toward msb lsb k) 0

section Places

variable {msb lsb k : Nat}

theorem dist_toward (h : k < width msb lsb) : Nat.dist (toward msb lsb k) lsb = k := by
  unfold width Nat.dist at h
  unfold toward Nat.dist
  split <;> omega

theorem toward_injOn (msb lsb : Nat) :
    Set.InjOn (toward msb lsb) (Finset.range (width msb lsb)) := by
  intro j hj k hk heq
  have hj' := dist_toward (Finset.mem_range.mp hj)
  have hk' := dist_toward (Finset.mem_range.mp hk)
  rw [← hj', heq, hk']

theorem toward_le (h : k < width msb lsb) : toward msb lsb k ≤ max msb lsb := by
  unfold width Nat.dist at h
  unfold toward
  split <;> omega

theorem places_eq_image (msb lsb : Nat) :
    places msb lsb = (Finset.range (width msb lsb)).image (toward msb lsb) := by
  ext i
  simp only [places, Finset.mem_filter, Finset.mem_Icc, Finset.mem_image, Finset.mem_range]
  constructor
  · rintro ⟨hbetween, hnear⟩
    refine ⟨Nat.dist i lsb, ?_, ?_⟩
    · unfold width
      unfold Nat.dist at hnear ⊢
      omega
    · unfold toward Nat.dist
      split <;> omega
  · rintro ⟨k, hk, rfl⟩
    rw [dist_toward hk]
    unfold width Nat.dist at hk
    unfold toward
    split <;> omega

theorem card_places (msb lsb : Nat) : (places msb lsb).card = width msb lsb := by
  rw [places_eq_image, Finset.card_image_of_injOn (toward_injOn msb lsb), Finset.card_range]

/-- The places from the most significant one down are those from the least significant one up,
read backward. -/
theorem descent_eq (msb lsb : Nat) :
    descent msb lsb = ((List.range (width msb lsb)).map (toward msb lsb)).reverse := by
  unfold descent
  split
  case isTrue h =>
    have hwidth : min msb (lsb + 7) - lsb + 1 = width msb lsb := by
      unfold width Nat.dist
      omega
    have htoward : toward msb lsb = (lsb + ·) := funext fun k => if_pos h
    rw [hwidth, htoward, List.range'_eq_map_range]
  case isFalse h =>
    have hwidth : lsb - max msb (lsb - 7) + 1 = width msb lsb := by
      unfold width Nat.dist
      omega
    have hlast : max msb (lsb - 7) + width msb lsb - 1 = lsb := by omega
    have htoward : toward msb lsb = (lsb - ·) := funext fun k => if_neg h
    rw [hwidth, htoward, ← List.reverse_eq_iff, List.reverse_range', hlast]

end Places

section Reading

variable {bytes : List UInt8} {msb lsb : Nat}

@[simp] theorem length_outward (bytes : List UInt8) (msb lsb : Nat) :
    (outward bytes msb lsb).length = width msb lsb := by
  rw [outward, List.length_map, List.length_range]

/-- Some bytes of a list, counted from a place upward. -/
theorem take_drop_eq_map {off n : Nat} (h : off + n ≤ bytes.length) :
    (bytes.drop off).take n = (List.range n).map fun k => bytes.getD (off + k) 0 := by
  refine List.ext_getElem ?_ fun i hi _ => ?_
  · simp only [List.length_take, List.length_drop, List.length_map, List.length_range]
    omega
  · simp only [List.length_take, List.length_drop] at hi
    rw [List.getElem_take, List.getElem_drop, List.getElem_map, List.getElem_range,
      List.getD_eq_getElem]

/-- Some bytes of a list, counted from a place downward. -/
theorem take_reverse_take_eq_map {off n : Nat} (hoff : off < bytes.length) (hn : n ≤ off + 1) :
    (bytes.take (off + 1)).reverse.take n =
      (List.range n).map fun k => bytes.getD (off - k) 0 := by
  refine List.ext_getElem ?_ fun i hi _ => ?_
  · simp only [List.length_take, List.length_reverse, List.length_map, List.length_range]
    omega
  · simp only [List.length_take, List.length_reverse] at hi
    have hplace : min (off + 1) bytes.length - 1 - i = off - i := by omega
    rw [List.getElem_take, List.getElem_reverse, List.getElem_take, List.getElem_map,
      List.getElem_range, List.getD_eq_getElem _ _ (by omega)]
    simp only [List.length_take, hplace]

theorem clamp_lt (hne : bytes ≠ []) (i : Nat) : clamp bytes i < bytes.length := by
  have hlength := List.length_pos_iff.mpr hne
  unfold clamp
  omega

theorem clamp_of_lt {i : Nat} (h : i < bytes.length) : clamp bytes i = i := by
  unfold clamp
  omega

theorem ne_nil_of_lt (h : msb < bytes.length ∨ lsb < bytes.length) : bytes ≠ [] := by
  rintro rfl
  exact h.elim (Nat.not_lt_zero _) (Nat.not_lt_zero _)

theorem read_nil (msb lsb : Nat) : read [] msb lsb = 0 := rfl

theorem read_of_le (hne : bytes ≠ []) (hmsb : bytes.length ≤ msb) (hlsb : bytes.length ≤ lsb) :
    read bytes msb lsb = 2 ^ 64 - 1 := by
  have hlength := List.length_pos_iff.mpr hne
  have hpast : bytes.length - 1 < msb ∧ bytes.length - 1 < lsb := by omega
  simp only [read, List.isEmpty_eq_false_iff.mpr hne, hpast, Bool.false_eq_true, decide_true,
    Bool.and_self, if_false, if_true, outside]

/-- A span is read outward once its ends are on the list. -/
theorem read_eq_outward (h : msb < bytes.length ∨ lsb < bytes.length) :
    read bytes msb lsb = leValue (outward bytes (clamp bytes msb) (clamp bytes lsb)) := by
  have hne := ne_nil_of_lt h
  have hpast : ¬ ((bytes.length - 1 < msb) ∧ (bytes.length - 1 < lsb)) := by omega
  have hmsb := clamp_lt hne msb
  have hlsb := clamp_lt hne lsb
  simp only [read, List.isEmpty_eq_false_iff.mpr hne, Bool.false_eq_true, if_false,
    Bool.and_eq_true, decide_eq_true_eq, hpast]
  rw [← clamp, ← clamp, outward]
  split
  case isTrue hup =>
    have hwidth : min 8 (clamp bytes msb - clamp bytes lsb + 1) =
        width (clamp bytes msb) (clamp bytes lsb) := by
      unfold width Nat.dist
      omega
    simp only [toward, if_pos hup]
    rw [← hwidth, take_drop_eq_map (by omega)]
  case isFalse hdown =>
    have hwidth : min 8 (clamp bytes lsb - clamp bytes msb + 1) =
        width (clamp bytes msb) (clamp bytes lsb) := by
      unfold width Nat.dist
      omega
    simp only [toward, if_neg hdown]
    rw [← hwidth, take_reverse_take_eq_map hlsb (by omega)]

theorem leValue_map_range (f : Nat → UInt8) (n : Nat) :
    leValue ((List.range n).map f) = ∑ k ∈ Finset.range n, 256 ^ k * (f k).toNat := by
  induction n generalizing f with
  | zero => rfl
  | succ n ih =>
    have hrest := ih fun k => f (k + 1)
    have hweight : ∀ k, 256 ^ (k + 1) * (f (k + 1)).toNat =
        256 * (256 ^ k * (f (k + 1)).toNat) := by
      intro k
      rw [Nat.pow_succ', Nat.mul_assoc]
    rw [List.range_succ_eq_map, List.map_cons, List.map_map, leValue, Finset.sum_range_succ',
      Nat.pow_zero, Nat.one_mul, Nat.add_comm]
    simp only [hweight, ← Finset.mul_sum]
    rw [← hrest]
    rfl

theorem weighed_eq_leValue (bytes : List UInt8) (msb lsb : Nat) :
    weighed bytes msb lsb = leValue (outward bytes msb lsb) := by
  rw [weighed, places_eq_image, Finset.sum_image (toward_injOn msb lsb), outward,
    leValue_map_range]
  refine Finset.sum_congr rfl fun k hk => ?_
  rw [dist_toward (Finset.mem_range.mp hk)]

theorem exact_read (h : msb < bytes.length ∨ lsb < bytes.length) :
    Exact bytes (clamp bytes msb) (clamp bytes lsb) (read bytes msb lsb) := by
  have hne := ne_nil_of_lt h
  constructor
  case inside =>
    intro i hi
    rw [places_eq_image] at hi
    obtain ⟨k, hk, rfl⟩ := Finset.mem_image.mp hi
    have hle := toward_le (Finset.mem_range.mp hk)
    have hmsb := clamp_lt hne msb
    have hlsb := clamp_lt hne lsb
    omega
  case card_eq => exact card_places _ _
  case value_eq => rw [read_eq_outward h, weighed_eq_leValue]
  case value_lt =>
    have hlt := leValue_lt (outward bytes (clamp bytes msb) (clamp bytes lsb))
    rwa [length_outward, ← card_places, ← read_eq_outward h] at hlt

/-! Mirror images. -/

theorem width_mirrored {last : Nat} (hmsb : msb ≤ last) (hlsb : lsb ≤ last) :
    width (last - msb) (last - lsb) = width msb lsb := by
  unfold width Nat.dist
  omega

theorem toward_mirrored {last k : Nat} (hmsb : msb ≤ last) (hlsb : lsb ≤ last)
    (hk : k < width msb lsb) :
    toward (last - msb) (last - lsb) k = last - toward msb lsb k := by
  unfold width Nat.dist at hk
  unfold toward
  split <;> split <;> omega

theorem outward_reverse (hmsb : msb < bytes.length) (hlsb : lsb < bytes.length) :
    outward bytes.reverse (bytes.length - 1 - msb) (bytes.length - 1 - lsb) =
      outward bytes msb lsb := by
  have hmsb' : msb ≤ bytes.length - 1 := by omega
  have hlsb' : lsb ≤ bytes.length - 1 := by omega
  rw [outward, outward, width_mirrored hmsb' hlsb']
  refine List.map_congr_left fun k hk => ?_
  have hk' : k < width msb lsb := List.mem_range.mp hk
  have hle : toward msb lsb k ≤ max msb lsb := toward_le hk'
  have hback : bytes.length - 1 - (bytes.length - 1 - toward msb lsb k) = toward msb lsb k := by
    omega
  rw [toward_mirrored hmsb' hlsb' hk', List.getD_reverse _ (by omega), hback]

theorem read_reverse (hmsb : msb < bytes.length) (hlsb : lsb < bytes.length) :
    read bytes.reverse (bytes.length - 1 - msb) (bytes.length - 1 - lsb) =
      read bytes msb lsb := by
  have hlength : bytes.reverse.length = bytes.length := List.length_reverse
  have hmsb' : bytes.length - 1 - msb < bytes.reverse.length := by omega
  have hlsb' : bytes.length - 1 - lsb < bytes.reverse.length := by omega
  rw [read_eq_outward (.inl hmsb'), read_eq_outward (.inl hmsb), clamp_of_lt hmsb',
    clamp_of_lt hlsb', clamp_of_lt hmsb, clamp_of_lt hlsb, outward_reverse hmsb hlsb]

/-! Words. -/

theorem toNat_shiftIn (word : UInt64) (b : UInt8) :
    (shiftIn word b).toNat = (b.toNat + 256 * word.toNat) % 2 ^ 64 := by
  have hb : b.toNat < 2 ^ 8 := b.toNat_lt
  have hshift : (word <<< 8).toNat = 2 ^ 8 * (word.toNat % 2 ^ 56) := by
    rw [UInt64.toNat_shiftLeft, Nat.shiftLeft_eq]
    change word.toNat * 2 ^ 8 % 2 ^ 64 = _
    omega
  rw [shiftIn, UInt64.toNat_or, UInt8.toNat_toUInt64, hshift, ← Nat.two_pow_add_eq_or_of_lt hb]
  omega

/-- A word keeps what it can hold of a number. -/
theorem toNat_foldr_shiftIn (l : List UInt8) :
    (l.foldr (fun b word => shiftIn word b) 0).toNat = leValue l % 2 ^ 64 := by
  induction l with
  | nil => rfl
  | cons b r ih =>
    rw [List.foldr_cons, toNat_shiftIn, ih, leValue]
    omega

theorem foldlM_shiftInAt? {walk : List Nat} (h : ∀ i ∈ walk, i < bytes.length) (word : UInt64) :
    walk.foldlM (shiftInAt? bytes) word =
      some (walk.foldl (fun word i => shiftIn word (bytes.getD i 0)) word) := by
  induction walk generalizing word with
  | nil => rfl
  | cons i r ih =>
    obtain ⟨hi, hr⟩ := List.forall_mem_cons.mp h
    have hword : shiftInAt? bytes word i = some (shiftIn word (bytes.getD i 0)) := by
      rw [shiftInAt?, List.getElem?_eq_getElem hi, Option.map_some, List.getD_eq_getElem _ _ hi]
    rw [List.foldlM_cons, hword, List.foldl_cons]
    exact ih hr _

/-- The eight bytes that a span has at most fill the word. -/
theorem exists_foldlM_descent (hmsb : msb < bytes.length) (hlsb : lsb < bytes.length) :
    ∃ word, (descent msb lsb).foldlM (shiftInAt? bytes) 0 = some word ∧
      word.toNat = leValue (outward bytes msb lsb) := by
  have hinside : ∀ i ∈ descent msb lsb, i < bytes.length := by
    intro i hi
    rw [descent_eq, List.mem_reverse] at hi
    obtain ⟨k, hk, rfl⟩ := List.mem_map.mp hi
    have hle := toward_le (List.mem_range.mp hk)
    omega
  have hlt : leValue (outward bytes msb lsb) < 2 ^ 64 := by
    have hwidth : width msb lsb ≤ 8 := Nat.min_le_left _ _
    have hvalue := leValue_lt (outward bytes msb lsb)
    rw [length_outward] at hvalue
    exact Nat.lt_of_lt_of_le hvalue (Nat.pow_le_pow_right (by decide) hwidth)
  refine ⟨_, foldlM_shiftInAt? hinside 0, ?_⟩
  have hvalue := toNat_foldr_shiftIn (outward bytes msb lsb)
  rw [Nat.mod_eq_of_lt hlt, outward, List.foldr_map] at hvalue
  rw [descent_eq, List.foldl_reverse, List.foldr_map, hvalue, outward]

theorem exists_readWord? (bytes : List UInt8) (msb lsb : Nat) :
    ∃ word, readWord? bytes msb lsb = some word ∧ word.toNat = read bytes msb lsb := by
  unfold readWord?
  by_cases hne : bytes = []
  · subst hne
    exact ⟨0, rfl, rfl⟩
  rw [if_neg hne]
  by_cases hpast : bytes.length ≤ msb ∧ bytes.length ≤ lsb
  · rw [if_pos hpast, read_of_le hne hpast.1 hpast.2]
    exact ⟨_, rfl, rfl⟩
  · rw [if_neg hpast, read_eq_outward (by omega)]
    exact exists_foldlM_descent (clamp_lt hne msb) (clamp_lt hne lsb)

end Reading

/-- A span reads as the weighted sum of its bytes, the same from either side, and in words of 64
bits as well. -/
theorem read_weighed (bytes : List UInt8) (msb lsb : Nat) :
    (bytes = [] → read bytes msb lsb = 0) ∧
    (bytes ≠ [] → bytes.length ≤ msb → bytes.length ≤ lsb →
      read bytes msb lsb = 2 ^ 64 - 1) ∧
    (msb < bytes.length ∨ lsb < bytes.length →
      Exact bytes (clamp bytes msb) (clamp bytes lsb) (read bytes msb lsb)) ∧
    (msb < bytes.length → lsb < bytes.length →
      read bytes.reverse (bytes.length - 1 - msb) (bytes.length - 1 - lsb) =
        read bytes msb lsb) ∧
    ∃ word, readWord? bytes msb lsb = some word ∧ word.toNat = read bytes msb lsb := by
  refine ⟨?_, ?_, ?_, ?_, ?_⟩
  · rintro rfl
    exact read_nil msb lsb
  · exact read_of_le
  · exact exact_read
  · exact read_reverse
  · exact exists_readWord? bytes msb lsb

/-- A byte more than a word can hold. -/
def nine : List UInt8 := [1, 2, 3, 4, 5, 6, 7, 8, 9]

theorem read_weighed_nine : (0 < nine.length ∨ 12 < nine.length) ∧
    Exact nine (clamp nine 0) (clamp nine 12) (read nine 0 12) ∧
    read nine 0 12 = 0x0203040506070809 ∧
    (0 < nine.length ∧ 8 < nine.length) ∧ read nine.reverse 8 0 = read nine 0 8 := by
  obtain ⟨-, -, hexact, -, -⟩ := read_weighed nine 0 12
  obtain ⟨-, -, -, hmirrored, -⟩ := read_weighed nine 0 8
  have hfirst : 0 < nine.length := by decide
  have hlast : 8 < nine.length := by decide
  exact ⟨.inl hfirst, hexact (.inl hfirst), by decide, ⟨hfirst, hlast⟩, hmirrored hfirst hlast⟩

end DriveHealth.Bytes.Span
