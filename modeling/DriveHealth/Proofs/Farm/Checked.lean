import DriveHealth.Farm.File
import DriveHealth.Proofs.Bytes

/-!
Reading with every access checked. An access behind the end of the data has no answer here, where
reading is total otherwise. Whatever the data are, reading a combined file checks enough before
each access that none is left without an answer.
-/
namespace DriveHealth

namespace Bytes

/-- The bytes of a range that must lie in the data. -/
def slice? (b : Bytes) (off len : Nat) : Option Bytes :=
  if off + len ≤ b.size then some (b.slice off len) else none

def le16? (b : Bytes) (off : Nat) : Option UInt16 := (b.slice? off 2).map fun s => s.le16 0

def le32? (b : Bytes) (off : Nat) : Option UInt32 := (b.slice? off 4).map fun s => s.le32 0

def le64? (b : Bytes) (off : Nat) : Option UInt64 := (b.slice? off 8).map fun s => s.le64 0

variable {b : Bytes} {off len : Nat}

theorem slice?_of_le (h : off + len ≤ b.size) : b.slice? off len = some (b.slice off len) :=
  if_pos h

theorem le16?_of_le (h : off + 2 ≤ b.size) : b.le16? off = some (b.le16 off) := by
  rw [le16?, slice?_of_le h, Option.map_some, le16, leNat_slice b (by omega), Nat.add_zero, le16]

example : (ofList [1, 2, 3]).le16? 2 = none := rfl

theorem le32?_of_le (h : off + 4 ≤ b.size) : b.le32? off = some (b.le32 off) := by
  rw [le32?, slice?_of_le h, Option.map_some, le32, leNat_slice b (by omega), Nat.add_zero, le32]

theorem le64?_of_le (h : off + 8 ≤ b.size) : b.le64? off = some (b.le64 off) := by
  rw [le64?, slice?_of_le h, Option.map_some, le64, leNat_slice b (by omega), Nat.add_zero, le64]

end Bytes

namespace Text.Field

def read? (b : Bytes) (off width : Nat) : Option String :=
  (b.slice? off width).map fun s => ofBytes s.data.toList

theorem read?_of_le {b : Bytes} {off width : Nat} (h : off + width ≤ b.size) :
    read? b off width = some (read b off width) := by
  rw [read?, Bytes.slice?_of_le h, Option.map_some, read]

end Text.Field

namespace Farm.File

open Layout

def checkedDescriptor (data : Bytes) (headerLength i : Nat) :
    Option (Except Error Descriptor) := do
  let base := headerSize + i * descriptorSize
  let signature ← data.slice? base 8
  match Kind.ofSignature? signature with
  | none => return .error (unknownSignature i signature)
  | some kind =>
    let offset ← data.le32? (base + 8)
    let length ← data.le32? (base + 12)
    if data.size < offset.toNat + length.toNat ∨ offset.toNat < headerLength then
      return .error (.parse (kind.label ++ " payload lies outside the file"))
    else
      let startTime ← data.le64? (base + 16)
      let endTime ← data.le64? (base + 24)
      return .ok ⟨kind, offset, length, startTime, endTime⟩

def checkedDescriptors (data : Bytes) (headerLength : Nat) :
    Nat → Nat → Option (Except Error (List Descriptor))
  | 0, _ => some (.ok [])
  | n + 1, i => do
    match ← checkedDescriptor data headerLength i with
    | .error e => return .error e
    | .ok d =>
      match ← checkedDescriptors data headerLength n (i + 1) with
      | .error e => return .error e
      | .ok l => return .ok (d :: l)

def checkedSummary (data : Bytes) (headerLength : UInt16) (descriptors : List Descriptor) :
    Option Summary := do
  let tag ← data.slice? 24 4
  let model ← Text.Field.read? data 32 40
  let serial ← Text.Field.read? data 80 20
  let firmware ← Text.Field.read? data 104 8
  return {
    major := ← data.le16? 22
    minor := ← data.le16? 20
    patch := ← data.le16? 18
    interfaceTag := Text.Utf8.lossy tag
    identity := ⟨model, serial, firmware⟩
    headerLength := headerLength
    bitmap := ← data.le32? 118
    descriptors := descriptors
    fileSize := data.size }

def checkedTable (data : Bytes) : Option (Except Error File) := do
  let headerLength ← data.le16? 116
  let found ← data.le32? 118
  let count ← data.le16? 252
  let size ← data.le16? 254
  let expected := headerSize + count.toNat * descriptorSize
  if size.toNat ≠ descriptorSize then
    return .error (.parse s!"descriptor size {size.toNat} (expected {descriptorSize})")
  else if headerLength.toNat ≠ expected ∨ data.size < expected then
    return .error (.parse
      s!"header length {headerLength.toNat} does not match {count.toNat} descriptor(s)")
  else
    match ← checkedDescriptors data expected count.toNat 0 with
    | .error e => return .error e
    | .ok descriptors =>
      let seen := Kind.bitmap (descriptors.map Descriptor.kind)
      if seen ≠ found then return .error (bitmapError found seen)
      else return .ok ⟨← checkedSummary data headerLength descriptors, data⟩

def checkedParse (data : Bytes) : Option (Except Error File) := do
  if data.size < headerSize then
    return .error (.parse s!"{data.size} bytes is shorter than a FARM header")
  else if (← data.slice? 0 16) ≠ signature.toUTF8 then
    return .error (.parse "missing combined FARM signature")
  else
    let patch ← data.le16? 18
    let minor ← data.le16? 20
    let major ← data.le16? 22
    if major ≠ majorVersion then return .error (otherVersion major minor patch)
    else checkedTable data

/-- The payload of the first dataset of a kind. Neither the end of its range may wrap nor the
range leave the data. -/
def checkedPayload? (f : File) (kind : Kind) : Option (Option Bytes) :=
  match f.summary.descriptors.find? fun d => d.kind == kind with
  | none => some none
  | some d =>
    if d.offset.toNat + d.length.toNat < 2 ^ 32 then
      (f.data.slice? d.offset.toNat d.length.toNat).map some
    else none

variable {data : Bytes}

theorem checkedDescriptor_eq {headerLength i : Nat}
    (h : headerSize + (i + 1) * descriptorSize ≤ data.size) :
    checkedDescriptor data headerLength i = some (readDescriptor data headerLength i) := by
  have hfits : headerSize + i * descriptorSize + 32 ≤ data.size := by
    unfold descriptorSize at h ⊢
    omega
  simp only [checkedDescriptor, readDescriptor,
    Bytes.slice?_of_le (by omega : headerSize + i * descriptorSize + 8 ≤ data.size),
    Bytes.le32?_of_le (by omega : headerSize + i * descriptorSize + 8 + 4 ≤ data.size),
    Bytes.le32?_of_le (by omega : headerSize + i * descriptorSize + 12 + 4 ≤ data.size),
    Bytes.le64?_of_le (by omega : headerSize + i * descriptorSize + 16 + 8 ≤ data.size),
    Bytes.le64?_of_le (by omega : headerSize + i * descriptorSize + 24 + 8 ≤ data.size),
    Option.bind_eq_bind, Option.bind_some, Option.pure_def]
  cases Kind.ofSignature? (data.slice (headerSize + i * descriptorSize) 8) with
  | none => rfl
  | some kind => simp only [apply_ite some]

theorem checkedDescriptors_eq {headerLength n i : Nat}
    (h : headerSize + (i + n) * descriptorSize ≤ data.size) :
    checkedDescriptors data headerLength n i = some (readDescriptors data headerLength n i) := by
  induction n generalizing i with
  | zero => rfl
  | succ n ih =>
    have hhead : headerSize + (i + 1) * descriptorSize ≤ data.size := by
      unfold descriptorSize at h ⊢
      omega
    have hrest : i + 1 + n = i + (n + 1) := by omega
    rw [← hrest] at h
    rw [checkedDescriptors, readDescriptors, checkedDescriptor_eq hhead, ih h]
    cases readDescriptor data headerLength i with
    | error e => rfl
    | ok d =>
      cases readDescriptors data headerLength n (i + 1) with
      | error e => rfl
      | ok l => rfl

theorem checkedSummary_eq (h : headerSize ≤ data.size) (headerLength : UInt16)
    (descriptors : List Descriptor) :
    checkedSummary data headerLength descriptors =
      some (readSummary data headerLength descriptors) := by
  have hsize : 256 ≤ data.size := h
  rw [checkedSummary, Bytes.slice?_of_le (by omega), Text.Field.read?_of_le (by omega),
    Text.Field.read?_of_le (by omega), Text.Field.read?_of_le (by omega),
    Bytes.le16?_of_le (by omega), Bytes.le16?_of_le (by omega), Bytes.le16?_of_le (by omega),
    Bytes.le32?_of_le (by omega)]
  rfl

theorem checkedTable_eq (h : headerSize ≤ data.size) :
    checkedTable data = some (readTable data) := by
  have hsize : 256 ≤ data.size := h
  rw [checkedTable, readTable, Bytes.le16?_of_le (by omega), Bytes.le32?_of_le (by omega),
    Bytes.le16?_of_le (by omega), Bytes.le16?_of_le (by omega)]
  simp only [Option.bind_eq_bind, Option.bind_some, Option.pure_def]
  by_cases hdescriptor : (data.le16 254).toNat ≠ descriptorSize
  · rw [if_pos hdescriptor, if_pos hdescriptor]
  rw [if_neg hdescriptor, if_neg hdescriptor]
  by_cases hlength : (data.le16 116).toNat ≠ headerSize + (data.le16 252).toNat * descriptorSize ∨
      data.size < headerSize + (data.le16 252).toNat * descriptorSize
  · rw [if_pos hlength, if_pos hlength]
  rw [if_neg hlength, if_neg hlength]
  have hfits : headerSize + (0 + (data.le16 252).toNat) * descriptorSize ≤ data.size := by
    rw [Nat.zero_add]
    omega
  rw [checkedDescriptors_eq hfits, Option.bind_some]
  cases readDescriptors data (headerSize + (data.le16 252).toNat * descriptorSize)
    (data.le16 252).toNat 0 with
  | error e => rfl
  | ok descriptors =>
    simp only [checkedSummary_eq h, Option.bind_some, apply_ite some]

/-- Reading a file never looks behind its end. -/
theorem checkedParse_eq (data : Bytes) : checkedParse data = some (parse data) := by
  rw [checkedParse, parse]
  by_cases hshort : data.size < headerSize
  · rw [if_pos hshort, if_pos hshort]
    rfl
  have hsize : 256 ≤ data.size := Nat.not_lt.mp hshort
  rw [if_neg hshort, if_neg hshort, Bytes.slice?_of_le (by omega),
    Bytes.le16?_of_le (by omega), Bytes.le16?_of_le (by omega), Bytes.le16?_of_le (by omega),
    checkedTable_eq hsize]
  simp only [Option.bind_eq_bind, Option.bind_some, Option.pure_def, apply_ite some]

section Payload

variable {f : File} (hsize : f.data.size < 2 ^ 32)
  (hwithin : ∀ d ∈ f.summary.descriptors, d.offset.toNat + d.length.toNat ≤ f.data.size)

include hsize hwithin

/-- In a file below four gibibytes the end of a payload does not wrap. -/
theorem payload?_eq (kind : Kind) :
    f.payload? kind = (f.summary.descriptors.find? fun d => d.kind == kind).map fun d =>
      f.data.slice d.offset.toNat d.length.toNat := by
  rw [payload?]
  cases hfind : f.summary.descriptors.find? fun d => d.kind == kind with
  | none => rfl
  | some d =>
    have hle := hwithin d (List.mem_of_find?_eq_some hfind)
    rw [Option.map_some, Option.map_some, UInt32.toNat_add, Nat.mod_eq_of_lt (by omega),
      Bytes.slice]

theorem checkedPayload?_eq (kind : Kind) :
    f.checkedPayload? kind = some (f.payload? kind) := by
  rw [payload?_eq hsize hwithin, checkedPayload?]
  cases hfind : f.summary.descriptors.find? fun d => d.kind == kind with
  | none => rfl
  | some d =>
    have hle := hwithin d (List.mem_of_find?_eq_some hfind)
    have hlt : d.offset.toNat + d.length.toNat < 2 ^ 32 := by omega
    simp only [if_pos hlt, Bytes.slice?_of_le hle, Option.map_some]

end Payload

end Farm.File
end DriveHealth
