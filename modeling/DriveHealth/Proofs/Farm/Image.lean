import DriveHealth.Proofs.Farm.Encoding

/-!
Reading a combined file back. An image of a layout holds its header, its descriptors and room for
its payloads. Every image is accepted, and it gives back the layout and what the fields of the
header keep of the identity.
-/
namespace DriveHealth

/-- What the text fields of a combined file keep of an identity. -/
def Identity.clipped (i : Identity) : Identity :=
  ⟨Text.Field.clipped 40 i.model, Text.Field.clipped 20 i.serial, Text.Field.clipped 8 i.firmware⟩

namespace Farm

namespace File

theorem readDescriptor_of_slice {data : Bytes} {headerLength i : Nat} {d : Descriptor}
    (h : data.slice (256 + i * 32) 32 = d.encode) (hstart : headerLength ≤ d.offset.toNat)
    (hstop : d.offset.toNat + d.length.toNat ≤ data.size) :
    readDescriptor data headerLength i = .ok d := by
  have hkind : data.slice (256 + i * 32) 8 = d.kind.signatureBytes :=
    Descriptor.slice_field h (i := 0) rfl rfl
  have hoffset : data.le32 (256 + i * 32 + 8) = d.offset :=
    Bytes.le32_of_slice (Descriptor.slice_field h (i := 1) rfl rfl)
  have hlength : data.le32 (256 + i * 32 + 12) = d.length :=
    Bytes.le32_of_slice (Descriptor.slice_field h (i := 2) rfl rfl)
  have hstartTime : data.le64 (256 + i * 32 + 16) = d.startTime :=
    Bytes.le64_of_slice (Descriptor.slice_field h (i := 3) rfl rfl)
  have hendTime : data.le64 (256 + i * 32 + 24) = d.endTime :=
    Bytes.le64_of_slice (Descriptor.slice_field h (i := 4) rfl rfl)
  have hwithin : ¬ (data.size < d.offset.toNat + d.length.toNat ∨
      d.offset.toNat < headerLength) := by
    omega
  simp only [readDescriptor, Layout.headerSize, Layout.descriptorSize, hkind,
    Kind.ofSignature?_signatureBytes, hoffset, hlength, hstartTime, hendTime, if_neg hwithin]

/-- Descriptors that lie side by side are read in order. -/
theorem readDescriptors_of_slices {data : Bytes} {headerLength : Nat} {l : List Descriptor}
    {i : Nat} (h : ∀ j d, l[j]? = some d → data.slice (256 + (i + j) * 32) 32 = d.encode)
    (hstart : ∀ d ∈ l, headerLength ≤ d.offset.toNat)
    (hstop : ∀ d ∈ l, d.offset.toNat + d.length.toNat ≤ data.size) :
    readDescriptors data headerLength l.length i = .ok l := by
  induction l generalizing i with
  | nil => rfl
  | cons d r ih =>
    have hhead := readDescriptor_of_slice (h 0 d rfl) (hstart d List.mem_cons_self)
      (hstop d List.mem_cons_self)
    have htail : readDescriptors data headerLength r.length (i + 1) = .ok r := by
      refine ih ?_ (fun e he => hstart e (List.mem_cons_of_mem d he))
        (fun e he => hstop e (List.mem_cons_of_mem d he))
      intro j e hj
      have hslice := h (j + 1) e hj
      rwa [Nat.add_comm j 1, ← Nat.add_assoc] at hslice
    rw [Nat.add_zero] at hhead
    rw [List.length_cons, readDescriptors, hhead]
    simp only [htail]

end File

/-- Bytes that hold a layout: its header, its descriptors and room for its payloads. -/
structure Image (y : Layout) (kind : DriveKind) (identity : Identity) (data : Bytes) : Prop where
  header : data.slice 0 256 = y.encodeHeader kind identity
  descriptor : ∀ i d, y.descriptors[i]? = some d → data.slice (256 + i * 32) 32 = d.encode
  table_length : y.headerLength.toNat = 256 + y.placements.length * 32
  table_fits : y.headerLength.toNat ≤ data.size
  start_le : ∀ d ∈ y.descriptors, y.headerLength.toNat ≤ d.offset.toNat
  stop_le : ∀ d ∈ y.descriptors, d.offset.toNat + d.length.toNat ≤ data.size
  bitmap : y.bitmap = Kind.bitmap (y.descriptors.map Descriptor.kind)

namespace Image

variable {y : Layout} {kind : DriveKind} {identity : Identity} {data : Bytes}

theorem signature (h : Image y kind identity data) :
    data.slice 0 16 = Layout.signature.toUTF8 :=
  Layout.slice_headerField h.header (i := 0) rfl rfl

theorem patch (h : Image y kind identity data) : data.le16 18 = Layout.patchVersion :=
  Bytes.le16_of_slice (Layout.slice_headerField h.header (i := 2) rfl rfl)

theorem minor (h : Image y kind identity data) : data.le16 20 = Layout.minorVersion :=
  Bytes.le16_of_slice (Layout.slice_headerField h.header (i := 3) rfl rfl)

theorem major (h : Image y kind identity data) : data.le16 22 = Layout.majorVersion :=
  Bytes.le16_of_slice (Layout.slice_headerField h.header (i := 4) rfl rfl)

theorem interfaceTag (h : Image y kind identity data) :
    Text.Utf8.lossy (data.slice 24 4) = kind.tag := by
  have htag : data.slice 24 4 = kind.tag.toUTF8 :=
    Layout.slice_headerField h.header (i := 5) rfl rfl
  rw [htag]
  cases kind <;> rfl

theorem model (h : Image y kind identity data) :
    Text.Field.read data 32 40 = Text.Field.clipped 40 identity.model :=
  Text.Field.read_of_slice (Layout.slice_headerField h.header (i := 7) rfl rfl)

theorem serial (h : Image y kind identity data) :
    Text.Field.read data 80 20 = Text.Field.clipped 20 identity.serial :=
  Text.Field.read_of_slice (Layout.slice_headerField h.header (i := 9) rfl rfl)

theorem firmware (h : Image y kind identity data) :
    Text.Field.read data 104 8 = Text.Field.clipped 8 identity.firmware :=
  Text.Field.read_of_slice (Layout.slice_headerField h.header (i := 11) rfl rfl)

theorem headerLength (h : Image y kind identity data) : data.le16 116 = y.headerLength :=
  Bytes.le16_of_slice (Layout.slice_headerField h.header (i := 13) rfl rfl)

theorem contentBitmap (h : Image y kind identity data) : data.le32 118 = y.bitmap :=
  Bytes.le32_of_slice (Layout.slice_headerField h.header (i := 14) rfl rfl)

theorem count (h : Image y kind identity data) :
    (data.le16 252).toNat = y.placements.length := by
  refine Bytes.toNat_le16_of_slice (Layout.slice_headerField h.header (i := 16) rfl rfl) ?_
  have hlength := h.table_length
  have hlt := y.headerLength.toNat_lt
  omega

theorem descriptorSize (h : Image y kind identity data) :
    (data.le16 254).toNat = Layout.descriptorSize :=
  Bytes.toNat_le16_of_slice (Layout.slice_headerField h.header (i := 17) rfl rfl) (by decide)

theorem readSummary (h : Image y kind identity data) (hsize : data.size = y.fileSize) :
    File.readSummary data y.headerLength y.descriptors = y.summary kind identity.clipped := by
  simp only [File.readSummary, h.major, h.minor, h.patch, h.interfaceTag, h.model, h.serial,
    h.firmware, h.contentBitmap, hsize, Layout.summary, Identity.clipped]

theorem readDescriptors (h : Image y kind identity data) :
    File.readDescriptors data y.headerLength.toNat y.placements.length 0 =
      .ok y.descriptors := by
  have hlength : y.descriptors.length = y.placements.length := List.length_map _
  rw [← hlength]
  refine File.readDescriptors_of_slices ?_ h.start_le h.stop_le
  intro i d hd
  rw [Nat.zero_add]
  exact h.descriptor i d hd

theorem readTable (h : Image y kind identity data) (hsize : data.size = y.fileSize) :
    File.readTable data = .ok ⟨y.summary kind identity.clipped, data⟩ := by
  have hexpected : Layout.headerSize + y.placements.length * Layout.descriptorSize =
      y.headerLength.toNat :=
    h.table_length.symm
  have hfits : ¬ (y.headerLength.toNat ≠ y.headerLength.toNat ∨
      data.size < y.headerLength.toNat) := by
    have htable := h.table_fits
    omega
  rw [File.readTable]
  simp only [h.descriptorSize, h.headerLength, h.count, hexpected, ne_eq, not_true_eq_false,
    if_false, h.readDescriptors, h.contentBitmap, ← h.bitmap, h.readSummary hsize]
  rw [if_neg (by simpa using hfits)]

/-- Every image is accepted. -/
theorem parse (h : Image y kind identity data) (hsize : data.size = y.fileSize) :
    File.parse data = .ok ⟨y.summary kind identity.clipped, data⟩ := by
  have hlong : ¬ data.size < Layout.headerSize := by
    have htable := h.table_fits
    have hlength := h.table_length
    unfold Layout.headerSize
    omega
  rw [File.parse, if_neg hlong, if_neg (not_not.mpr h.signature), if_neg (not_not.mpr h.major)]
  exact h.readTable hsize

end Image
end Farm
end DriveHealth
