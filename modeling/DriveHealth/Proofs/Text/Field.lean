import DriveHealth.Proofs.Bytes
import DriveHealth.Text.Field
import Mathlib.Data.List.Basic

/-!
Fixed-width text fields, written and read back. A field gives back the first bytes of its text,
with a space for each byte that is no printable ASCII and without the spaces at both ends; so
trimmed printable ASCII that fits comes back unchanged, and nothing else is ever read.
-/
namespace DriveHealth.Text.Field

def trimSpaces (l : List Char) : List Char :=
  ((l.dropWhile (· == ' ')).reverse.dropWhile (· == ' ')).reverse

/-- What is left of a text in a field of a width. -/
def clipped (width : Nat) (s : String) : String :=
  .ofList (trimSpaces ((s.toUTF8.data.toList.take width).map charOf))

theorem isPrintable_iff (b : UInt8) : isPrintable b = true ↔ 32 ≤ b.toNat ∧ b.toNat ≤ 126 := by
  simp [isPrintable, UInt8.le_iff_toNat_le]

/-- Of the printable characters only the space is blank. -/
theorem isBlank_charOf (b : UInt8) : isBlank (charOf b) = (charOf b == ' ') := by
  have hrange : ∀ n < 127, 32 ≤ n → isBlank (Char.ofNat n) = (Char.ofNat n == ' ') := by
    decide
  unfold charOf
  by_cases hb : isPrintable b = true
  · obtain ⟨hlow, hhigh⟩ := (isPrintable_iff b).mp hb
    rw [if_pos hb]
    exact hrange b.toNat (by omega) hlow
  · rw [if_neg hb]
    decide

theorem trimStart_map_charOf (l : List UInt8) :
    trimStart (l.map charOf) = (l.map charOf).dropWhile (· == ' ') := by
  have hblank : isBlank ∘ charOf = (· == ' ') ∘ charOf := funext isBlank_charOf
  rw [trimStart, List.dropWhile_map, List.dropWhile_map, hblank]

theorem trimChars_map_charOf (l : List UInt8) :
    trimChars (l.map charOf) = trimSpaces (l.map charOf) := by
  rw [trimChars, trimStart_map_charOf, trimEnd, List.dropWhile_map, ← List.map_reverse,
    trimStart_map_charOf, List.map_reverse, ← List.dropWhile_map]
  rfl

/-- Padding with spaces is lost in trimming. -/
theorem trimSpaces_append_replicate (l : List Char) (n : Nat) :
    trimSpaces (l ++ List.replicate n ' ') = trimSpaces l := by
  have hdrop : (List.replicate n ' ').dropWhile (· == ' ') = [] := by
    rw [List.dropWhile_replicate, beq_self_eq_true, if_pos rfl]
  unfold trimSpaces
  rw [List.dropWhile_append]
  by_cases hl : (l.dropWhile (· == ' ')).isEmpty = true
  · rw [if_pos hl, hdrop, List.isEmpty_iff.mp hl]
  · rw [if_neg hl, List.reverse_append, List.reverse_replicate, List.dropWhile_append, hdrop]
    rfl

theorem toList_padded (width : Nat) (s : String) :
    (padded width s).data.toList = s.toUTF8.data.toList.take width ++
      List.replicate (width - (s.toUTF8.extract 0 width).size) 0x20 := by
  have htake : (s.toUTF8.extract 0 width).data.toList = s.toUTF8.data.toList.take width := by
    simp
  rw [padded, ByteArray.toList_data_append, Bytes.toList_fill, htake]

@[simp] theorem size_padded (width : Nat) (s : String) : (padded width s).size = width := by
  have hsize : (s.toUTF8.extract 0 width).size ≤ width := by
    rw [ByteArray.size_extract]
    omega
  rw [padded, ByteArray.size_append, Bytes.size_fill]
  omega

/-- A field reads as the clipped text that was written to it. -/
theorem read_of_slice {b : Bytes} {off width : Nat} {s : String}
    (h : b.slice off width = padded width s) : read b off width = clipped width s := by
  have hspace : charOf 0x20 = ' ' := by decide
  rw [read, h, ofBytes, toList_padded, trimChars_map_charOf, List.map_append,
    List.map_replicate, hspace, trimSpaces_append_replicate, clipped]

/-- A text of printable ASCII that fits in a width and has no space at either end. -/
structure Plain (width : Nat) (s : String) : Prop where
  fits : s.utf8ByteSize ≤ width
  printable : ∀ c ∈ s.toList, 32 ≤ c.toNat ∧ c.toNat ≤ 126
  head_ne : ∀ c ∈ s.toList.head?, c ≠ ' '
  last_ne : ∀ c ∈ s.toList.getLast?, c ≠ ' '

theorem read_append_left {a : Bytes} (b : Bytes) {off width : Nat} (h : off + width ≤ a.size) :
    read (a ++ b) off width = read a off width := by
  rw [read, Bytes.slice_append_left a b h, read]

theorem dropWhile_eq_self {l : List Char} (h : ∀ c ∈ l.head?, c ≠ ' ') :
    l.dropWhile (· == ' ') = l := by
  cases l with
  | nil => rfl
  | cons c r =>
    have hc : c ≠ ' ' := h c rfl
    rw [List.dropWhile_cons_of_neg (by simpa using hc)]

theorem trimSpaces_eq_self {l : List Char} (hhead : ∀ c ∈ l.head?, c ≠ ' ')
    (hlast : ∀ c ∈ l.getLast?, c ≠ ' ') : trimSpaces l = l := by
  have hreverse : ∀ c ∈ l.reverse.head?, c ≠ ' ' := by
    rwa [List.head?_reverse]
  rw [trimSpaces, dropWhile_eq_self hhead, dropWhile_eq_self hreverse, List.reverse_reverse]

/-- A printable character is one byte of UTF-8, which reads as that character. -/
theorem map_charOf_utf8EncodeChar {c : Char} (h : 32 ≤ c.toNat ∧ c.toNat ≤ 126) :
    (String.utf8EncodeChar c).map charOf = [c] := by
  have hsize : c.utf8Size = 1 := by
    rw [Char.utf8Size_eq_one_iff, UInt32.le_iff_toNat_le]
    show c.toNat ≤ 127
    omega
  have hbyte : c.val.toUInt8.toNat = c.toNat := by
    rw [UInt32.toNat_toUInt8]
    show c.toNat % 256 = c.toNat
    omega
  have hprintable : isPrintable c.val.toUInt8 = true := by
    rwa [isPrintable_iff, hbyte]
  rw [String.utf8EncodeChar_eq_singleton hsize, List.map_singleton, charOf, if_pos hprintable,
    hbyte, Char.ofNat_toNat]

theorem map_charOf_toUTF8 {s : String} (h : ∀ c ∈ s.toList, 32 ≤ c.toNat ∧ c.toNat ≤ 126) :
    s.toUTF8.data.toList.map charOf = s.toList := by
  have hbytes : s.toUTF8.data.toList = s.toList.flatMap String.utf8EncodeChar := by
    rw [String.toUTF8_eq_toByteArray, ← String.utf8Encode_toList, List.utf8Encode,
      List.toList_data_toByteArray]
  rw [hbytes, List.map_flatMap]
  calc
    _ = s.toList.flatMap fun c => [c] :=
      List.flatMap_congr fun c hc => map_charOf_utf8EncodeChar (h c hc)
    _ = s.toList := List.flatMap_singleton' s.toList

theorem clipped_of_plain {width : Nat} {s : String} (h : Plain width s) :
    clipped width s = s := by
  have hlength : s.toUTF8.data.toList.length ≤ width := h.fits
  rw [clipped, List.take_of_length_le hlength, map_charOf_toUTF8 h.printable,
    trimSpaces_eq_self h.head_ne h.last_ne, String.ofList_toList]

theorem charOf_printable (b : UInt8) : 32 ≤ (charOf b).toNat ∧ (charOf b).toNat ≤ 126 := by
  have hrange : ∀ n < 127, 32 ≤ n → 32 ≤ (Char.ofNat n).toNat ∧ (Char.ofNat n).toNat ≤ 126 := by
    decide
  unfold charOf
  by_cases hb : isPrintable b = true
  · obtain ⟨hlow, hhigh⟩ := (isPrintable_iff b).mp hb
    rw [if_pos hb]
    exact hrange b.toNat (by omega) hlow
  · rw [if_neg hb]
    decide

theorem head?_dropWhile_ne (l : List Char) : ∀ c ∈ (l.dropWhile (· == ' ')).head?, c ≠ ' ' := by
  intro c hc
  have hnot := List.head?_dropWhile_not (· == ' ') l
  rw [hc] at hnot
  simpa using hnot

theorem getLast?_trimSpaces_ne (l : List Char) : ∀ c ∈ (trimSpaces l).getLast?, c ≠ ' ' := by
  rw [trimSpaces, List.getLast?_reverse]
  exact head?_dropWhile_ne _

/-- Trimming the end of a text leaves its head. -/
theorem head?_trimSpaces_ne (l : List Char) : ∀ c ∈ (trimSpaces l).head?, c ≠ ' ' := by
  intro c hc
  obtain ⟨dropped, hsplit⟩ :=
    List.dropWhile_suffix (l := (l.dropWhile (· == ' ')).reverse) (· == ' ')
  rw [trimSpaces, List.head?_reverse] at hc
  have hlast : c ∈ (l.dropWhile (· == ' ')).reverse.getLast? := by
    rw [← hsplit]
    exact List.mem_getLast?_append_of_mem_getLast? hc
  rw [List.getLast?_reverse] at hlast
  exact head?_dropWhile_ne l c hlast

theorem trimSpaces_sublist (l : List Char) : (trimSpaces l).Sublist l := by
  have hend : (trimSpaces l).Sublist (l.dropWhile (· == ' ')).reverse.reverse :=
    (List.dropWhile_sublist _).reverse
  rw [List.reverse_reverse] at hend
  exact hend.trans (List.dropWhile_sublist _)

theorem utf8ByteSize_of_printable {s : String}
    (h : ∀ c ∈ s.toList, 32 ≤ c.toNat ∧ c.toNat ≤ 126) : s.utf8ByteSize = s.toList.length := by
  rw [← map_charOf_toUTF8 h, List.length_map]
  rfl

/-- Whatever a field holds, it reads as trimmed printable ASCII. -/
theorem plain_read (b : Bytes) (off width : Nat) : Plain width (read b off width) := by
  have hlist : (read b off width).toList =
      trimSpaces ((b.slice off width).data.toList.map charOf) := by
    rw [read, ofBytes, String.toList_ofList, trimChars_map_charOf]
  have hprintable : ∀ c ∈ (read b off width).toList, 32 ≤ c.toNat ∧ c.toNat ≤ 126 := by
    intro c hc
    rw [hlist] at hc
    obtain ⟨v, _, rfl⟩ := List.mem_map.mp ((trimSpaces_sublist _).subset hc)
    exact charOf_printable v
  have hlength : (b.slice off width).data.toList.length ≤ width := by
    have hsize : (b.slice off width).size ≤ width := by
      rw [Bytes.size_slice]
      omega
    exact hsize
  exact {
    fits := by
      have hle := (trimSpaces_sublist ((b.slice off width).data.toList.map charOf)).length_le
      rw [List.length_map] at hle
      rw [utf8ByteSize_of_printable hprintable, hlist]
      omega
    printable := hprintable
    head_ne := hlist ▸ head?_trimSpaces_ne _
    last_ne := hlist ▸ getLast?_trimSpaces_ne _
  }

end DriveHealth.Text.Field
