import DriveHealth.Bytes
import Mathlib.Algebra.GroupWithZero.Nat
import Mathlib.Data.List.GetD

/-!
Reading back what was laid side by side. A slice of joined pieces is the piece that starts there,
and a number is read from the slice that its digits were written to.
-/
namespace DriveHealth.Bytes

theorem size_slice (b : Bytes) (off len : Nat) :
    (b.slice off len).size = min (off + len) b.size - off := by
  rw [slice, ByteArray.size_extract]

theorem size_take (b : Bytes) (n : Nat) : (b.take n).size = min n b.size := by
  rw [take, ByteArray.size_extract, Nat.sub_zero]

theorem extract_append_left {a : Bytes} (b : Bytes) {start stop : Nat} (h : stop ≤ a.size) :
    (a ++ b).extract start stop = a.extract start stop := by
  have hnone : b.extract (start - a.size) (stop - a.size) = ByteArray.empty := by
    rw [ByteArray.extract_eq_empty_iff]
    omega
  rw [ByteArray.extract_append, hnone, ByteArray.append_empty]

theorem take_append_extract (b : Bytes) (n : Nat) : b.take n ++ b.extract n b.size = b := by
  rw [take, ByteArray.extract_append_extract, Nat.zero_min, ByteArray.extract_zero_max_size]

/-- What is behind the beginning of a string starts where that ends. -/
theorem extract_size_take (b : Bytes) (n : Nat) :
    b.extract (b.take n).size b.size = b.extract n b.size := by
  have hsize := size_take b n
  by_cases hn : n ≤ b.size
  · rw [hsize, Nat.min_eq_left hn]
  · rw [ByteArray.extract_eq_empty_iff.mpr (by omega),
      ByteArray.extract_eq_empty_iff.mpr (by omega)]

theorem slice_append_left (a b : Bytes) {off len : Nat} (h : off + len ≤ a.size) :
    (a ++ b).slice off len = a.slice off len :=
  extract_append_left b h

theorem slice_append_right (a b : Bytes) {off : Nat} (len : Nat) (h : a.size ≤ off) :
    (a ++ b).slice off len = b.slice (off - a.size) len := by
  have hnone : a.extract off (off + len) = ByteArray.empty := by
    rw [ByteArray.extract_eq_empty_iff]
    omega
  have hend : off + len - a.size = off - a.size + len := by omega
  rw [slice, ByteArray.extract_append, hnone, ByteArray.empty_append, hend, slice]

@[simp] theorem slice_size (b : Bytes) : b.slice 0 b.size = b := by
  rw [slice, Nat.zero_add, ByteArray.extract_zero_size]

theorem slice_slice (b : Bytes) {off len i n : Nat} (h : i + n ≤ len) :
    (b.slice off len).slice i n = b.slice (off + i) n := by
  have hend : min (off + (i + n)) (off + len) = off + i + n := by omega
  simp only [slice, ByteArray.extract_extract, hend]

theorem slice_append_slice (b : Bytes) (off m n : Nat) :
    b.slice off m ++ b.slice (off + m) n = b.slice off (m + n) := by
  have hstart : min off (off + m) = off := by omega
  have hstop : max (off + m) (off + m + n) = off + (m + n) := by omega
  simp only [slice, ByteArray.extract_append_extract, hstart, hstop]

theorem take_slice (b : Bytes) {len n : Nat} (h : n ≤ len) : (b.slice 0 len).take n = b.take n := by
  have hstop : min n len = n := by omega
  simp only [slice, take, ByteArray.extract_extract, Nat.zero_add, hstop]

theorem slice_take (b : Bytes) (n : Nat) : (b.take n).slice 0 n = b.take n := by
  simp only [slice, take, ByteArray.extract_extract, Nat.zero_add, Nat.min_self]

/-- The bytes of a list of pieces, one behind the other. -/
def join : List Bytes → Bytes
  | [] => .empty
  | piece :: r => piece ++ join r

theorem join_append (l m : List Bytes) : join (l ++ m) = join l ++ join m := by
  induction l with
  | nil => rw [List.nil_append, join, ByteArray.empty_append]
  | cons piece r ih => rw [List.cons_append, join, ih, join, ByteArray.append_assoc]

theorem size_join (l : List Bytes) : (join l).size = (l.map ByteArray.size).sum := by
  induction l with
  | nil => rfl
  | cons piece r ih => rw [join, ByteArray.size_append, ih, List.map_cons, List.sum_cons]

/-- Each piece is found behind the pieces before it. -/
theorem slice_join (before after : List Bytes) (piece : Bytes) {off len : Nat}
    (hoff : off = (before.map ByteArray.size).sum) (hlen : len = piece.size) :
    (join (before ++ piece :: after)).slice off len = piece := by
  have hsize : (join before).size = off := by rw [size_join, hoff]
  rw [join_append, slice_append_right _ _ _ (Nat.le_of_eq hsize), hsize, Nat.sub_self, join,
    slice_append_left _ _ (by omega), hlen, slice_size]

/-- The piece at an index is found behind the sizes of the pieces before it. -/
theorem slice_join_getElem (l : List Bytes) {i : Nat} (h : i < l.length) :
    (join l).slice ((l.map ByteArray.size).take i).sum l[i].size = l[i] := by
  have hsplit : l.take i ++ l[i] :: l.drop (i + 1) = l := by
    rw [← List.drop_eq_getElem_cons h, List.take_append_drop]
  have hoff : ((l.map ByteArray.size).take i).sum = ((l.take i).map ByteArray.size).sum := by
    rw [List.map_take]
  have hslice := slice_join (l.take i) (l.drop (i + 1)) l[i] hoff rfl
  rwa [hsplit] at hslice

/-- In a row of fields each one is found behind the sizes of the fields before it. -/
theorem slice_of_join {b : Bytes} {base len : Nat} {fields : List Bytes} {sizes : List Nat}
    (h : b.slice base len = join fields) (hsizes : fields.map ByteArray.size = sizes)
    (hlen : sizes.sum ≤ len) {i n : Nat} {field : Bytes} (hfield : fields[i]? = some field)
    (hn : sizes[i]? = some n) : b.slice (base + (sizes.take i).sum) n = field := by
  obtain ⟨hi, rfl⟩ := List.getElem?_eq_some_iff.mp hfield
  have hsize : n = fields[i].size := by
    rw [← hsizes, List.getElem?_map, hfield, Option.map_some] at hn
    exact (Option.some.inj hn).symm
  have hsum : (sizes.take i).sum + n ≤ sizes.sum := by
    obtain ⟨hlt, rfl⟩ := List.getElem?_eq_some_iff.mp hn
    have htotal : (sizes.take i ++ sizes.drop i).sum = sizes.sum := by
      rw [List.take_append_drop]
    rw [List.sum_append, List.drop_eq_getElem_cons hlt, List.sum_cons] at htotal
    omega
  rw [← slice_slice b (by omega : (sizes.take i).sum + n ≤ len), h, hsize, ← hsizes]
  exact slice_join_getElem fields hi

theorem byteAt_slice (b : Bytes) {off len i : Nat} (h : i < len) :
    (b.slice off len).byteAt i = b.byteAt (off + i) := by
  by_cases hi : off + i < b.size
  · have hslice : i < (b.slice off len).size := by
      rw [size_slice]
      omega
    rw [byteAt_of_lt hi, byteAt_of_lt hslice]
    exact ByteArray.getElem_extract hslice
  · have hslice : (b.slice off len).size ≤ i := by
      rw [size_slice]
      omega
    rw [byteAt_of_le (Nat.not_lt.mp hi), byteAt_of_le hslice]

theorem getD_toList (b : Bytes) (i : Nat) : b.data.toList.getD i 0 = b.byteAt i := by
  by_cases hi : i < b.size
  · rw [byteAt_of_lt hi]
    exact List.getD_eq_getElem _ _ hi
  · rw [byteAt_of_le (Nat.not_lt.mp hi)]
    exact List.getD_eq_default _ _ (Nat.not_lt.mp hi)

theorem byteAt_ofList (l : List UInt8) (i : Nat) : (ofList l).byteAt i = l.getD i 0 := by
  rw [← getD_toList, ofList, List.data_toByteArray]

theorem getElem?_data {b : Bytes} {i : Nat} (h : i < b.size) :
    b.data[i]? = some (b.byteAt i) := by
  rw [byteAt_of_lt h]
  exact Array.getElem?_eq_getElem h

theorem leNat_slice (b : Bytes) {off len i w : Nat} (h : i + w ≤ len) :
    (b.slice off len).leNat i w = b.leNat (off + i) w := by
  induction w generalizing i with
  | zero => rfl
  | succ w ih =>
    have hrest := ih (i := i + 1) (by omega)
    rw [leNat, leNat, byteAt_slice b (by omega), hrest, Nat.add_assoc]

section Append

variable {a : Bytes} (b : Bytes) {off : Nat}

theorem leNat_append_left {w : Nat} (h : off + w ≤ a.size) :
    (a ++ b).leNat off w = a.leNat off w := by
  have hwhole : ((a ++ b).slice off w).leNat 0 w = (a ++ b).leNat (off + 0) w :=
    leNat_slice (a ++ b) (by omega)
  have hpart : (a.slice off w).leNat 0 w = a.leNat (off + 0) w := leNat_slice a (by omega)
  rw [slice_append_left a b h, hpart] at hwhole
  exact hwhole.symm

theorem le16_append_left (h : off + 2 ≤ a.size) : (a ++ b).le16 off = a.le16 off := by
  rw [le16, leNat_append_left b h, le16]

theorem le32_append_left (h : off + 4 ≤ a.size) : (a ++ b).le32 off = a.le32 off := by
  rw [le32, leNat_append_left b h, le32]

theorem le64_append_left (h : off + 8 ≤ a.size) : (a ++ b).le64 off = a.le64 off := by
  rw [le64, leNat_append_left b h, le64]

end Append

theorem leNat_ofList (before l : List UInt8) :
    (ofList (before ++ l)).leNat before.length l.length = leValue l := by
  induction l generalizing before with
  | nil => rfl
  | cons b r ih =>
    have hbyte : (ofList (before ++ b :: r)).byteAt before.length = b := by
      rw [byteAt_ofList]
      simp
    have hrest := ih (before ++ [b])
    rw [List.append_assoc, List.singleton_append, List.length_append, List.length_singleton]
      at hrest
    rw [List.length_cons, leNat, hbyte, hrest, leValue]

theorem leValue_leDigits (w n : Nat) : leValue (leDigits w n) = n % 256 ^ w := by
  induction w generalizing n with
  | zero => rw [leDigits, leValue, Nat.pow_zero, Nat.mod_one]
  | succ w ih =>
    have hbyte : (UInt8.ofNat n).toNat = n % 256 := UInt8.toNat_ofNat'
    rw [leDigits, leValue, ih, hbyte, Nat.pow_succ', Nat.mod_mul]

/-- A number is read from where its digits were written. -/
theorem leNat_of_slice {b : Bytes} {off w n : Nat} (h : b.slice off w = le w n)
    (hn : n < 256 ^ w) : b.leNat off w = n := by
  have hread : (b.slice off w).leNat 0 w = b.leNat off w := by
    rw [leNat_slice b (by omega), Nat.add_zero]
  have hdigits := leNat_ofList [] (leDigits w n)
  rw [List.nil_append, List.length_nil, length_leDigits, leValue_leDigits,
    Nat.mod_eq_of_lt hn] at hdigits
  rw [← hread, h]
  exact hdigits

theorem le16_of_slice {b : Bytes} {off : Nat} {v : UInt16} (h : b.slice off 2 = le 2 v.toNat) :
    b.le16 off = v := by
  rw [le16, leNat_of_slice h v.toNat_lt, UInt16.ofNat_toNat]

theorem le32_of_slice {b : Bytes} {off : Nat} {v : UInt32} (h : b.slice off 4 = le 4 v.toNat) :
    b.le32 off = v := by
  rw [le32, leNat_of_slice h v.toNat_lt, UInt32.ofNat_toNat]

theorem le64_of_slice {b : Bytes} {off : Nat} {v : UInt64} (h : b.slice off 8 = le 8 v.toNat) :
    b.le64 off = v := by
  rw [le64, leNat_of_slice h v.toNat_lt, UInt64.ofNat_toNat]

theorem toNat_le16_of_slice {b : Bytes} {off n : Nat} (h : b.slice off 2 = le 2 n)
    (hn : n < 2 ^ 16) : (b.le16 off).toNat = n := by
  rw [le16, leNat_of_slice h hn, UInt16.toNat_ofNat_of_lt' hn]

@[simp] theorem size_le (w n : Nat) : (le w n).size = w := by
  rw [le, size_ofList, length_leDigits]

theorem toList_pushMany (v : UInt8) (n : Nat) (b : Bytes) :
    (pushMany v n b).data.toList = b.data.toList ++ List.replicate n v := by
  induction n generalizing b with
  | zero => rw [pushMany, List.replicate_zero, List.append_nil]
  | succ n ih =>
    rw [pushMany, ih, ByteArray.data_push, Array.toList_push, List.append_assoc,
      List.singleton_append, List.replicate_succ]

theorem toList_fill (n : Nat) (v : UInt8) : (fill n v).data.toList = List.replicate n v :=
  toList_pushMany v n .empty

theorem byteAt_fill {n : Nat} (v : UInt8) {i : Nat} (h : i < n) : (fill n v).byteAt i = v := by
  have hsize : i < (fill n v).size := by rwa [size_fill]
  rw [byteAt_of_lt hsize, ByteArray.getElem_eq_getElem_data, ← Array.getElem_toList]
  simp only [toList_fill, List.getElem_replicate]

/-- The sum of the bytes, without bound. -/
def byteSum (b : Bytes) : Nat := (b.data.toList.map UInt8.toNat).sum

theorem toNat_foldl_add (l : List UInt8) (v : UInt8) :
    (l.foldl (· + ·) v).toNat = (v.toNat + (l.map UInt8.toNat).sum) % 256 := by
  induction l generalizing v with
  | nil =>
    rw [List.foldl_nil, List.map_nil, List.sum_nil, Nat.add_zero, Nat.mod_eq_of_lt v.toNat_lt]
  | cons w r ih =>
    rw [List.foldl_cons, ih, UInt8.toNat_add, List.map_cons, List.sum_cons]
    omega

theorem checksumOk_iff (b : Bytes) : b.checksumOk = true ↔ b.byteSum % 256 = 0 := by
  have hsum : b.sum.toNat = b.byteSum % 256 := by
    rw [sum, ← Array.foldl_toList, toNat_foldl_add, UInt8.toNat_zero, Nat.zero_add, byteSum]
  rw [checksumOk, beq_iff_eq, ← UInt8.toNat_inj, hsum, UInt8.toNat_zero]

end DriveHealth.Bytes
