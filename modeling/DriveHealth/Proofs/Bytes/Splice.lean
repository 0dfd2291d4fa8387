import DriveHealth.Proofs.Bytes

/-!
Bytes laid over others. A field changes the bytes that it covers and no other ones, and a
big-endian number is read from where its digits were laid.
-/
namespace DriveHealth.Bytes

theorem byteAt_append_left (a b : Bytes) {i : Nat} (h : i < a.size) :
    (a ++ b).byteAt i = a.byteAt i := by
  have hsum : i < (a ++ b).size := by
    rw [ByteArray.size_append]
    omega
  rw [byteAt_of_lt hsum, byteAt_of_lt h]
  exact ByteArray.getElem_append_left h

theorem byteAt_append_right (a b : Bytes) {i : Nat} (h : a.size ≤ i) :
    (a ++ b).byteAt i = b.byteAt (i - a.size) := by
  by_cases hi : i < a.size + b.size
  · have hsum : i < (a ++ b).size := by rwa [ByteArray.size_append]
    have hrest : i - a.size < b.size := by omega
    rw [byteAt_of_lt hsum, byteAt_of_lt hrest]
    exact ByteArray.getElem_append_right h
  · have hsum : (a ++ b).size ≤ i := by
      rw [ByteArray.size_append]
      omega
    have hrest : b.size ≤ i - a.size := by omega
    rw [byteAt_of_le hsum, byteAt_of_le hrest]

theorem byteAt_extract (b : Bytes) {start stop i : Nat} (h : start + i < stop) :
    byteAt (b.extract start stop) i = b.byteAt (start + i) := by
  have hstop : start + (stop - start) = stop := by omega
  have hi : i < stop - start := by omega
  have hslice : (b.slice start (stop - start)).byteAt i = b.byteAt (start + i) :=
    byteAt_slice b hi
  rwa [slice, hstop] at hslice

/-- The bytes around a field and the field itself. -/
def laid (b : Bytes) (off : Nat) (field : Bytes) : Bytes :=
  b.extract 0 off ++ field ++ b.extract (off + field.size) b.size

theorem size_le_laid (b : Bytes) (off : Nat) (field : Bytes) :
    b.size ≤ (b.laid off field).size := by
  simp only [laid, ByteArray.size_append, ByteArray.size_extract]
  omega

@[simp] theorem size_splice (b : Bytes) (off : Nat) (field : Bytes) :
    (b.splice off field).size = b.size := by
  have hle := size_le_laid b off field
  rw [splice, ByteArray.size_extract, ← laid]
  omega

variable {b field : Bytes} {off i : Nat}

theorem byteAt_splice (h : i < b.size) :
    (b.splice off field).byteAt i = (b.laid off field).byteAt i := by
  have hi : 0 + i < b.size := by omega
  rw [splice, byteAt_extract _ hi, Nat.zero_add, laid]

theorem byteAt_splice_before (hfit : off + field.size ≤ b.size) (h : i < off) :
    (b.splice off field).byteAt i = b.byteAt i := by
  have hfirst : i < (b.extract 0 off).size := by
    rw [ByteArray.size_extract]
    omega
  have hoff : 0 + i < off := by omega
  rw [byteAt_splice (by omega), laid, ByteArray.append_assoc, byteAt_append_left _ _ hfirst,
    byteAt_extract _ hoff, Nat.zero_add]

theorem byteAt_splice_inside (hfit : off + field.size ≤ b.size) (hlow : off ≤ i)
    (hhigh : i < off + field.size) : (b.splice off field).byteAt i = field.byteAt (i - off) := by
  have hsize : (b.extract 0 off).size = off := by
    rw [ByteArray.size_extract]
    omega
  have hfirst : (b.extract 0 off).size ≤ i := by omega
  have hfield : i - off < field.size := by omega
  rw [byteAt_splice (by omega), laid, ByteArray.append_assoc, byteAt_append_right _ _ hfirst,
    hsize, byteAt_append_left _ _ hfield]

theorem byteAt_splice_after (hfit : off + field.size ≤ b.size) (h : off + field.size ≤ i) :
    (b.splice off field).byteAt i = b.byteAt i := by
  by_cases hi : i < b.size
  · have hsize : (b.extract 0 off ++ field).size = off + field.size := by
      rw [ByteArray.size_append, ByteArray.size_extract]
      omega
    have hfirst : (b.extract 0 off ++ field).size ≤ i := by omega
    have hback : off + field.size + (i - (off + field.size)) = i := by omega
    have hrest : off + field.size + (i - (off + field.size)) < b.size := by omega
    rw [byteAt_splice hi, laid, byteAt_append_right _ _ hfirst, hsize,
      byteAt_extract _ hrest, hback]
  · have hsplice : (b.splice off field).size ≤ i := by
      rw [size_splice]
      omega
    rw [byteAt_of_le hsplice, byteAt_of_le (Nat.not_lt.mp hi)]

/-- A field leaves every byte alone that it does not cover. -/
theorem byteAt_splice_outside (hfit : off + field.size ≤ b.size)
    (h : i < off ∨ off + field.size ≤ i) : (b.splice off field).byteAt i = b.byteAt i := by
  rcases h with hbefore | hafter
  · exact byteAt_splice_before hfit hbefore
  · exact byteAt_splice_after hfit hafter

theorem byteAt_setByte_self (v : UInt8) (h : i < b.size) : (b.setByte i v).byteAt i = v := by
  have hsize : (ofList [v]).size = 1 := size_ofList [v]
  rw [setByte, byteAt_splice_inside (by omega) (Nat.le_refl i) (by omega), Nat.sub_self,
    byteAt_ofList]
  rfl

theorem byteAt_setByte_ne (v : UInt8) {j : Nat} (hi : i < b.size) (hne : j ≠ i) :
    (b.setByte i v).byteAt j = b.byteAt j := by
  have hsize : (ofList [v]).size = 1 := size_ofList [v]
  rw [setByte, byteAt_splice_outside (by omega) (by omega)]

@[simp] theorem size_setByte (b : Bytes) (i : Nat) (v : UInt8) :
    (b.setByte i v).size = b.size :=
  size_splice b i (ofList [v])

/-- A number depends on its digits alone. -/
theorem beNat_congr {a b : Bytes} {i j w : Nat}
    (h : ∀ k < w, a.byteAt (i + k) = b.byteAt (j + k)) : a.beNat i w = b.beNat j w := by
  induction w with
  | zero => rfl
  | succ w ih =>
    have hprefix := ih fun k hk => h k (by omega)
    rw [beNat, beNat, hprefix, h w (by omega)]

/-- A number tells its digits. -/
theorem byteAt_of_beNat_eq {a b : Bytes} {i j w : Nat} (h : a.beNat i w = b.beNat j w) :
    ∀ k < w, a.byteAt (i + k) = b.byteAt (j + k) := by
  induction w with
  | zero =>
    intro k hk
    exact absurd hk (Nat.not_lt_zero k)
  | succ w ih =>
    intro k hk
    have ha := (a.byteAt (i + w)).toNat_lt
    have hb := (b.byteAt (j + w)).toNat_lt
    rw [beNat, beNat] at h
    by_cases hlast : k = w
    · rw [hlast, ← UInt8.toNat_inj]
      omega
    · exact ih (by omega) k (by omega)

@[simp] theorem size_be (w n : Nat) : (be w n).size = w := by
  rw [be, size_ofList, beDigits, List.length_reverse, length_leDigits]

theorem beNat_be (w n : Nat) : (be w n).beNat 0 w = n % 256 ^ w := by
  induction w generalizing n with
  | zero => rw [beNat, Nat.pow_zero, Nat.mod_one]
  | succ w ih =>
    have hdigits : beDigits (w + 1) n = beDigits w (n / 256) ++ [UInt8.ofNat n] := by
      rw [beDigits, leDigits, List.reverse_cons, beDigits]
    have hlength : (beDigits w (n / 256)).length = w := by
      rw [beDigits, List.length_reverse, length_leDigits]
    have hprefix : (be (w + 1) n).beNat 0 w = (be w (n / 256)).beNat 0 w := by
      refine beNat_congr fun k hk => ?_
      rw [be, be, hdigits, byteAt_ofList, byteAt_ofList, List.getD_append _ _ _ _ (by omega)]
    have hlast : (be (w + 1) n).byteAt (0 + w) = UInt8.ofNat n := by
      rw [be, hdigits, byteAt_ofList, List.getD_append_right _ _ _ _ (by omega), hlength,
        Nat.zero_add, Nat.sub_self]
      rfl
    have hbyte : (UInt8.ofNat n).toNat = n % 256 := UInt8.toNat_ofNat'
    rw [beNat, hprefix, ih, hlast, hbyte, Nat.pow_succ', Nat.mod_mul, Nat.add_comm]

/-- A number is read from where its digits were laid. -/
theorem be32_splice {v : UInt32} (hfit : off + 4 ≤ b.size) :
    (b.splice off (be 4 v.toNat)).be32 off = v := by
  have hsize : (be 4 v.toNat).size = 4 := size_be 4 v.toNat
  have hlt : v.toNat < 256 ^ 4 := v.toNat_lt
  have hread : (b.splice off (be 4 v.toNat)).beNat off 4 = (be 4 v.toNat).beNat 0 4 := by
    refine beNat_congr fun k hk => ?_
    rw [byteAt_splice_inside (by omega) (by omega) (by omega), Nat.add_sub_cancel_left,
      Nat.zero_add]
  rw [be32, hread, beNat_be, Nat.mod_eq_of_lt hlt, UInt32.ofNat_toNat]

theorem be32_congr {a b : Bytes} (h : ∀ k < 4, a.byteAt (off + k) = b.byteAt (off + k)) :
    a.be32 off = b.be32 off := by
  rw [be32, beNat_congr h, be32]

theorem byteAt_of_be32_eq {a b : Bytes} (h : a.be32 off = b.be32 off) :
    ∀ k < 4, a.byteAt (off + k) = b.byteAt (off + k) := by
  have ha : a.beNat off 4 < UInt32.size := beNat_lt a off 4
  have hb : b.beNat off 4 < UInt32.size := beNat_lt b off 4
  have hnat := congrArg UInt32.toNat h
  rw [be32, be32, UInt32.toNat_ofNat_of_lt' ha, UInt32.toNat_ofNat_of_lt' hb] at hnat
  exact byteAt_of_beNat_eq hnat

end DriveHealth.Bytes
