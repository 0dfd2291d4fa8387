import DriveHealth.Proofs.Bytes

/-!
Places in byte strings. A number that is read from some places is determined by the bytes there and
determines them, so what is read from two strings is equal exactly when they agree at the places.
A string can also be drawn from another one, place by place, with zeros in between.
-/
namespace DriveHealth.Bytes

/-- The strings have the same bytes at these places. -/
def AgreeAt (places : List Nat) (a b : Bytes) : Prop := ∀ i ∈ places, a.byteAt i = b.byteAt i

section Agreement

variable {a b : Bytes}

/-- The order of the places does not matter. -/
theorem agreeAt_congr {l m : List Nat} (h : l.Perm m) : AgreeAt l a b ↔ AgreeAt m a b :=
  forall_congr' fun _ => imp_congr_left h.mem_iff

theorem agreeAt_append (l m : List Nat) :
    AgreeAt (l ++ m) a b ↔ AgreeAt l a b ∧ AgreeAt m a b :=
  List.forall_mem_append

theorem agreeAt_singleton (i : Nat) : AgreeAt [i] a b ↔ a.byteAt i = b.byteAt i :=
  List.forall_mem_singleton

/-- Strings of one length that agree everywhere are equal. -/
theorem ext_byteAt (hsize : a.size = b.size) (h : ∀ i, a.byteAt i = b.byteAt i) : a = b := by
  refine ByteArray.ext_getElem hsize fun i ha hb => ?_
  rw [← byteAt_of_lt ha, ← byteAt_of_lt hb, h i]

/-- A number tells its digits. -/
theorem leValue_injective {l m : List UInt8} (hlength : l.length = m.length)
    (h : leValue l = leValue m) : l = m := by
  induction l generalizing m with
  | nil => exact (List.length_eq_zero_iff.mp hlength.symm).symm
  | cons v r ih =>
    obtain ⟨w, s, rfl⟩ := List.exists_cons_of_length_eq_add_one hlength.symm
    have hv := v.toNat_lt
    have hw := w.toNat_lt
    rw [leValue, leValue] at h
    have hfirst : v = w := by
      rw [← UInt8.toNat_inj]
      omega
    have hrest : r = s := ih (Nat.succ.inj hlength) (by omega)
    rw [hfirst, hrest]

theorem leValue_lt_two_pow (l : List UInt8) : leValue l < 2 ^ (8 * l.length) := by
  rw [Nat.pow_mul]
  exact leValue_lt l

theorem leValue_eq_iff (places : List Nat) :
    leValue (places.map a.byteAt) = leValue (places.map b.byteAt) ↔ AgreeAt places a b := by
  constructor
  · intro h
    exact List.map_inj_left.mp (leValue_injective (by rw [List.length_map, List.length_map]) h)
  · intro h
    rw [List.map_inj_left.mpr h]

theorem leNat_eq_leValue (b : Bytes) (off w : Nat) :
    b.leNat off w = leValue ((List.range' off w).map b.byteAt) := by
  induction w generalizing off with
  | zero => rfl
  | succ w ih => rw [leNat, ih, List.range'_succ, List.map_cons, leValue]

theorem leNat_congr {i j w : Nat} (h : ∀ k < w, a.byteAt (i + k) = b.byteAt (j + k)) :
    a.leNat i w = b.leNat j w := by
  induction w generalizing i j with
  | zero => rfl
  | succ w ih =>
    have hfirst := h 0 (Nat.succ_pos w)
    have hrest : a.leNat (i + 1) w = b.leNat (j + 1) w := by
      refine ih fun k hk => ?_
      have hk' := h (k + 1) (Nat.succ_lt_succ hk)
      rwa [Nat.add_comm k 1, ← Nat.add_assoc, ← Nat.add_assoc] at hk'
    rw [Nat.add_zero, Nat.add_zero] at hfirst
    rw [leNat, leNat, hfirst, hrest]

theorem le16_congr {off : Nat} (h : ∀ k < 2, a.byteAt (off + k) = b.byteAt (off + k)) :
    a.le16 off = b.le16 off := by
  rw [le16, leNat_congr h, le16]

theorem leNat_eq_iff (off w : Nat) :
    a.leNat off w = b.leNat off w ↔ AgreeAt (List.range' off w) a b := by
  rw [leNat_eq_leValue, leNat_eq_leValue, leValue_eq_iff]

theorem le16_eq_iff (off : Nat) :
    a.le16 off = b.le16 off ↔ AgreeAt (List.range' off 2) a b := by
  have ha : a.leNat off 2 < UInt16.size := leNat_lt a off 2
  have hb : b.leNat off 2 < UInt16.size := leNat_lt b off 2
  rw [← leNat_eq_iff, ← UInt16.toNat_inj, le16, le16, UInt16.toNat_ofNat_of_lt' ha,
    UInt16.toNat_ofNat_of_lt' hb]

theorem le32_eq_iff (off : Nat) :
    a.le32 off = b.le32 off ↔ AgreeAt (List.range' off 4) a b := by
  have ha : a.leNat off 4 < UInt32.size := leNat_lt a off 4
  have hb : b.leNat off 4 < UInt32.size := leNat_lt b off 4
  rw [← leNat_eq_iff, ← UInt32.toNat_inj, le32, le32, UInt32.toNat_ofNat_of_lt' ha,
    UInt32.toNat_ofNat_of_lt' hb]

end Agreement

theorem leValue_zeros (n : Nat) : leValue (List.replicate n 0) = 0 := by
  induction n with
  | zero => rfl
  | succ n ih => rw [List.replicate_succ, leValue, ih, UInt8.toNat_zero]

/-- Digits of zero at the high end add nothing. -/
theorem leValue_append_zeros (l : List UInt8) (n : Nat) :
    leValue (l ++ List.replicate n 0) = leValue l := by
  induction l with
  | nil => exact leValue_zeros n
  | cons v r ih => rw [List.cons_append, leValue, ih, leValue]

theorem toNat_le16 (b : Bytes) (off : Nat) :
    (b.le16 off).toNat = (b.byteAt off).toNat + 256 * (b.byteAt (off + 1)).toNat := by
  have hlow := (b.byteAt off).toNat_lt
  have hhigh := (b.byteAt (off + 1)).toNat_lt
  have hvalue : b.leNat off 2 = (b.byteAt off).toNat + 256 * (b.byteAt (off + 1)).toNat := rfl
  rw [le16, hvalue, UInt16.toNat_ofNat_of_lt' (show _ < 2 ^ 16 by omega)]

/-- A register whose high byte is zero is its low byte. -/
theorem le16_of_high_zero {b : Bytes} {off : Nat} (h : b.byteAt (off + 1) = 0) :
    b.le16 off = (b.byteAt off).toUInt16 := by
  rw [← UInt16.toNat_inj, toNat_le16, h, UInt8.toNat_toUInt16, UInt8.toNat_zero, Nat.mul_zero,
    Nat.add_zero]

theorem isZero_iff (b : Bytes) : b.isZero = true ↔ ∀ i, b.byteAt i = 0 := by
  rw [isZero, Array.all_eq_true]
  constructor
  · intro h i
    by_cases hi : i < b.size
    · rw [byteAt_of_lt hi]
      exact beq_iff_eq.mp (h i hi)
    · exact byteAt_of_le (Nat.not_lt.mp hi)
  · intro h i hi
    have hbyte := h i
    rw [byteAt_of_lt hi] at hbyte
    exact beq_iff_eq.mpr hbyte

/-- The byte at a place, or zero where there is none. -/
def drawnAt (b : Bytes) : Option Nat → UInt8
  | some i => b.byteAt i
  | none => 0

@[simp] theorem drawnAt_some (b : Bytes) (i : Nat) : b.drawnAt (some i) = b.byteAt i := rfl

@[simp] theorem drawnAt_none (b : Bytes) : b.drawnAt none = 0 := rfl

/-- Each byte is drawn from a place of another string, or is zero. -/
def draw (b : Bytes) (origins : List (Option Nat)) : Bytes := ofList (origins.map b.drawnAt)

@[simp] theorem size_draw (b : Bytes) (origins : List (Option Nat)) :
    (b.draw origins).size = origins.length := by
  rw [draw, size_ofList, List.length_map]

theorem byteAt_draw (b : Bytes) (origins : List (Option Nat)) (i : Nat) :
    (b.draw origins).byteAt i = b.drawnAt (origins.getD i none) := by
  rw [draw, byteAt_ofList, ← drawnAt_none b, List.getD_map]

/-- A string is drawn to zeros exactly if it has zeros wherever it is drawn from. -/
theorem isZero_draw_iff (b : Bytes) (origins : List (Option Nat)) :
    (b.draw origins).isZero = true ↔ ∀ i, some i ∈ origins → b.byteAt i = 0 := by
  rw [isZero_iff]
  constructor
  · intro h i hi
    obtain ⟨j, hj, horigin⟩ := List.getElem_of_mem hi
    have hbyte := h j
    rwa [byteAt_draw, List.getD_eq_getElem _ _ hj, horigin] at hbyte
  · intro h j
    rw [byteAt_draw]
    by_cases hj : j < origins.length
    · have hmem := List.getElem_mem hj
      rw [List.getD_eq_getElem _ _ hj]
      cases horigin : origins[j] with
      | none => rfl
      | some i =>
        rw [horigin] at hmem
        exact h i hmem
    · rw [List.getD_eq_default _ _ (Nat.not_lt.mp hj)]
      rfl

end DriveHealth.Bytes
