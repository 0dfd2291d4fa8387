import DriveHealth.Farm.File
import DriveHealth.Proofs.Text.Field

/-!
The header and the descriptors of a combined file, written and read back. The header is a row of
fields of fixed sizes, so each field is found where the sizes before it add up to.
-/
namespace DriveHealth.Farm

theorem Kind.size_signatureBytes (k : Kind) : k.signatureBytes.size = 8 := by
  cases k <;> rfl

theorem Kind.ofSignature?_signatureBytes (k : Kind) :
    Kind.ofSignature? k.signatureBytes = some k := by
  cases k <;> rfl

namespace Descriptor

def fields (d : Descriptor) : List Bytes :=
  [d.kind.signatureBytes, .le 4 d.offset.toNat, .le 4 d.length.toNat, .le 8 d.startTime.toNat,
    .le 8 d.endTime.toNat]

theorem encode_eq_join (d : Descriptor) : d.encode = Bytes.join d.fields := by
  simp only [encode, fields, Bytes.join, ByteArray.append_assoc, ByteArray.append_empty]

theorem sizes_fields (d : Descriptor) : d.fields.map ByteArray.size = [8, 4, 4, 8, 8] := by
  simp only [fields, List.map_cons, List.map_nil, Kind.size_signatureBytes, Bytes.size_le]

@[simp] theorem size_encode (d : Descriptor) : d.encode.size = 32 := by
  rw [encode_eq_join, Bytes.size_join, sizes_fields]
  rfl

/-- Where a descriptor lies, each of its fields lies behind the fields before it. -/
theorem slice_field {b : Bytes} {base : Nat} {d : Descriptor} (h : b.slice base 32 = d.encode)
    {i n : Nat} {field : Bytes} (hfield : d.fields[i]? = some field)
    (hn : [8, 4, 4, 8, 8][i]? = some n) :
    b.slice (base + ([8, 4, 4, 8, 8].take i).sum) n = field := by
  rw [encode_eq_join] at h
  exact Bytes.slice_of_join h (sizes_fields d) (by decide) hfield hn

end Descriptor

namespace Layout

def headerFields (y : Layout) (kind : DriveKind) (identity : Identity) : List Bytes :=
  [signature.toUTF8, .zeros 2, .le 2 patchVersion.toNat, .le 2 minorVersion.toNat,
    .le 2 majorVersion.toNat, kind.tag.toUTF8, .zeros 4, Text.Field.padded 40 identity.model,
    .zeros 8, Text.Field.padded 20 identity.serial, .zeros 4,
    Text.Field.padded 8 identity.firmware, .zeros 4, .le 2 y.headerLength.toNat,
    .le 4 y.bitmap.toNat, .zeros 130, .le 2 y.placements.length, .le 2 descriptorSize]

def headerSizes : List Nat := [16, 2, 2, 2, 2, 4, 4, 40, 8, 20, 4, 8, 4, 2, 4, 130, 2, 2]

variable (y : Layout) (kind : DriveKind) (identity : Identity)

theorem encodeHeader_eq_join :
    y.encodeHeader kind identity = Bytes.join (y.headerFields kind identity) := by
  delta encodeHeader headerFields
  simp only [Bytes.join, ByteArray.append_assoc, ByteArray.append_empty]

theorem sizes_headerFields :
    (y.headerFields kind identity).map ByteArray.size = headerSizes := by
  have hsignature : signature.toUTF8.size = 16 := rfl
  have htag : kind.tag.toUTF8.size = 4 := by cases kind <;> rfl
  simp only [headerFields, List.map_cons, List.map_nil, hsignature, htag, Bytes.size_zeros,
    Bytes.size_le, Text.Field.size_padded, headerSizes]

@[simp] theorem size_encodeHeader : (y.encodeHeader kind identity).size = 256 := by
  rw [encodeHeader_eq_join, Bytes.size_join, sizes_headerFields]
  rfl

variable {y kind identity}

/-- Where a header lies, each of its fields lies behind the fields before it. -/
theorem slice_headerField {b : Bytes} (h : b.slice 0 256 = y.encodeHeader kind identity)
    {i n : Nat} {field : Bytes} (hfield : (y.headerFields kind identity)[i]? = some field)
    (hn : headerSizes[i]? = some n) : b.slice (headerSizes.take i).sum n = field := by
  rw [encodeHeader_eq_join] at h
  rw [← Nat.zero_add (headerSizes.take i).sum]
  exact Bytes.slice_of_join h (sizes_headerFields y kind identity) (by decide) hfield hn

end Layout
end DriveHealth.Farm
