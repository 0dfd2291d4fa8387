import DriveHealth.Proofs.Farm.Bitmap
import DriveHealth.Proofs.Farm.Checked
import DriveHealth.Proofs.Farm.RoundTrip

/-!
What reading accepts and what it refuses. Nothing is known of the bytes beforehand, so all that
holds of a file that is accepted comes from the checks on its header and its descriptors. Bytes
of another major version are told apart from all others that are refused.
-/
namespace DriveHealth.Farm.File

open Layout

/-- The payload of a descriptor lies behind a header and in the data. -/
def Within (data : Bytes) (headerLength : Nat) (d : Descriptor) : Prop :=
  headerLength ≤ d.offset.toNat ∧ d.offset.toNat + d.length.toNat ≤ data.size

theorem readDescriptor_cases (data : Bytes) (headerLength i : Nat) :
    (∃ text, readDescriptor data headerLength i = .error (.parse text)) ∨
      ∃ d, readDescriptor data headerLength i = .ok d ∧ Within data headerLength d := by
  unfold readDescriptor
  dsimp only
  cases Kind.ofSignature? (data.slice (headerSize + i * descriptorSize) 8) with
  | none => exact .inl ⟨_, rfl⟩
  | some kind =>
    dsimp only
    split
    · exact .inl ⟨_, rfl⟩
    · rename_i hrange
      refine .inr ⟨_, rfl, ?_⟩
      dsimp only [Within]
      omega

/-- The first descriptor that is refused refuses the table. -/
theorem readDescriptors_cases (data : Bytes) (headerLength n i : Nat) :
    (∃ text, readDescriptors data headerLength n i = .error (.parse text)) ∨
      ∃ l, readDescriptors data headerLength n i = .ok l ∧ l.length = n ∧
        ∀ d ∈ l, Within data headerLength d := by
  induction n generalizing i with
  | zero => exact .inr ⟨[], rfl, rfl, List.forall_mem_nil _⟩
  | succ n ih =>
    rw [readDescriptors]
    rcases readDescriptor_cases data headerLength i with ⟨text, hhead⟩ | ⟨d, hhead, hwithin⟩
    · rw [hhead]
      exact .inl ⟨text, rfl⟩
    · rcases ih (i + 1) with ⟨text, htail⟩ | ⟨l, htail, hlength, hrest⟩
      · simp only [hhead, htail]
        exact .inl ⟨text, rfl⟩
      · simp only [hhead, htail]
        refine .inr ⟨d :: l, rfl, ?_, List.forall_mem_cons.mpr ⟨hwithin, hrest⟩⟩
        rw [List.length_cons, hlength]

/-- A header agrees with the descriptors behind it. -/
structure Agrees (data : Bytes) (descriptors : List Descriptor) : Prop where
  length : (data.le16 116).toNat = headerSize + descriptors.length * descriptorSize
  fits : (data.le16 116).toNat ≤ data.size
  within : ∀ d ∈ descriptors, Within data (data.le16 116).toNat d
  bitmap : data.le32 118 = Kind.bitmap (descriptors.map Descriptor.kind)

theorem readTable_cases (data : Bytes) :
    (∃ text, readTable data = .error (.parse text)) ∨
      ∃ descriptors, readTable data = .ok ⟨readSummary data (data.le16 116) descriptors, data⟩ ∧
        Agrees data descriptors := by
  unfold readTable
  dsimp only
  split
  · exact .inl ⟨_, rfl⟩
  split
  · exact .inl ⟨_, rfl⟩
  rename_i hlength
  rw [not_or, not_not, Nat.not_lt] at hlength
  rcases readDescriptors_cases data (headerSize + (data.le16 252).toNat * descriptorSize)
    (data.le16 252).toNat 0 with ⟨text, htable⟩ | ⟨descriptors, htable, hcount, hwithin⟩
  · rw [htable]
    exact .inl ⟨text, rfl⟩
  · rw [htable]
    dsimp only
    split
    · exact .inl ⟨_, rfl⟩
    · rename_i hbitmap
      refine .inr ⟨descriptors, rfl, ?_⟩
      exact {
        length := by rw [hlength.1, hcount]
        fits := by rw [hlength.1]; exact hlength.2
        within := by rwa [hlength.1]
        bitmap := (not_not.mp hbitmap).symm
      }

/-- A combined file of another major version. -/
def OfOtherVersion (data : Bytes) : Prop :=
  256 ≤ data.size ∧ data.slice 0 16 = signature.toUTF8 ∧ data.le16 22 ≠ majorVersion

theorem parse_cases (data : Bytes) :
    (OfOtherVersion data ∧
      parse data = .error (otherVersion (data.le16 22) (data.le16 20) (data.le16 18))) ∨
    ¬ OfOtherVersion data ∧ ((∃ text, parse data = .error (.parse text)) ∨
      ∃ descriptors, parse data = .ok ⟨readSummary data (data.le16 116) descriptors, data⟩ ∧
        Agrees data descriptors) := by
  unfold parse
  split
  · rename_i hshort
    exact .inr ⟨fun h => absurd h.1 (Nat.not_le.mpr hshort), .inl ⟨_, rfl⟩⟩
  rename_i hsize
  split
  · rename_i hsignature
    exact .inr ⟨fun h => hsignature h.2.1, .inl ⟨_, rfl⟩⟩
  rename_i hsignature
  split
  · rename_i hmajor
    exact .inl ⟨⟨Nat.not_lt.mp hsize, not_not.mp hsignature, hmajor⟩, rfl⟩
  · rename_i hmajor
    exact .inr ⟨fun h => hmajor h.2.2, readTable_cases data⟩

/-- The parts of a file agree with each other and with the bytes that it was read from. -/
structure Consistent (data : Bytes) (f : File) : Prop where
  data_eq : f.data = data
  file_size : f.summary.fileSize = data.size
  header_length : f.summary.headerLength.toNat = 256 + 32 * f.summary.descriptors.length
  header_fits : f.summary.headerLength.toNat ≤ f.summary.fileSize
  bitmap_bit : ∀ b, f.summary.bitmap.toNat.testBit b = true ↔
    ∃ d ∈ f.summary.descriptors, d.kind.bit = b
  bitmap_lt : f.summary.bitmap.toNat < 0x80
  within : ∀ d ∈ f.summary.descriptors, f.summary.headerLength.toNat ≤ d.offset.toNat ∧
    d.offset.toNat + d.length.toNat ≤ f.summary.fileSize
  payload_iff : ∀ k, (f.payload? k).isSome = true ↔
    f.summary.bitmap.toNat.testBit k.bit = true
  /-- The payload of a kind is that of its first descriptor. -/
  payload_first : ∀ before d after, f.summary.descriptors = before ++ d :: after →
    (∀ e ∈ before, e.kind ≠ d.kind) →
    f.payload? d.kind = some (data.slice d.offset.toNat d.length.toNat)
  payload_checked : ∀ k, f.checkedPayload? k = some (f.payload? k)
  model : Text.Field.Plain 40 f.summary.identity.model
  serial : Text.Field.Plain 20 f.summary.identity.serial
  firmware : Text.Field.Plain 8 f.summary.identity.firmware

section Consistent

variable {data : Bytes} {descriptors : List Descriptor}

theorem Agrees.testBit_iff (h : Agrees data descriptors) (b : Nat) :
    (data.le32 118).toNat.testBit b = true ↔ ∃ d ∈ descriptors, d.kind.bit = b := by
  rw [h.bitmap, Kind.testBit_bitmap]
  simp

theorem Agrees.bitmap_lt (h : Agrees data descriptors) : (data.le32 118).toNat < 0x80 := by
  apply Nat.lt_pow_two_of_testBit (n := 7)
  intro b hb
  rw [Bool.eq_false_iff, ne_eq, h.testBit_iff]
  rintro ⟨d, _, rfl⟩
  exact absurd d.kind.bit_lt (Nat.not_lt.mpr hb)

theorem Agrees.consistent (h : Agrees data descriptors) (hsize : data.size < 2 ^ 32) :
    Consistent data ⟨readSummary data (data.le16 116) descriptors, data⟩ := by
  have hwithin : ∀ d ∈ descriptors, d.offset.toNat + d.length.toNat ≤ data.size :=
    fun d hd => (h.within d hd).2
  have hpayload := payload?_eq (f := ⟨readSummary data (data.le16 116) descriptors, data⟩)
    hsize hwithin
  exact {
    data_eq := rfl
    file_size := rfl
    header_length := by
      rw [Nat.mul_comm]
      exact h.length
    header_fits := h.fits
    bitmap_bit := h.testBit_iff
    bitmap_lt := h.bitmap_lt
    within := h.within
    payload_iff := by
      intro k
      rw [hpayload, Option.isSome_map, List.find?_isSome]
      simp [readSummary, h.testBit_iff, Kind.bit_injective.eq_iff]
    payload_first := by
      intro before d after hsplit hbefore
      have hfind : (before ++ d :: after).find? (fun e => e.kind == d.kind) = some d :=
        List.find?_eq_some_iff_append.mpr
          ⟨beq_self_eq_true _, before, after, rfl, by simpa using hbefore⟩
      rw [hpayload, hsplit, hfind, Option.map_some]
    payload_checked := checkedPayload?_eq hsize hwithin
    model := Text.Field.plain_read data 32 40
    serial := Text.Field.plain_read data 80 20
    firmware := Text.Field.plain_read data 104 8
  }

end Consistent

section Parse

variable {data : Bytes}

theorem notSupported_of_otherVersion (h : OfOtherVersion data) :
    ∃ text, parse data = .error (.notSupported text) := by
  rcases parse_cases data with ⟨_, hparse⟩ | ⟨hother, _⟩
  · exact ⟨_, hparse⟩
  · exact absurd h hother

theorem parse_of_parse_error {e : Error} (h : parse data = .error e)
    (hother : ¬ OfOtherVersion data) : ∃ text, e = .parse text := by
  rcases parse_cases data with ⟨h', _⟩ | ⟨_, ⟨text, hparse⟩ | ⟨_, hparse, _⟩⟩
  · exact absurd h' hother
  · rw [hparse] at h
    exact ⟨text, (Except.error.inj h).symm⟩
  · rw [hparse] at h
    cases h

theorem agrees_of_parse {f : File} (h : parse data = .ok f) :
    ∃ descriptors, f = ⟨readSummary data (data.le16 116) descriptors, data⟩ ∧
      Agrees data descriptors := by
  rcases parse_cases data with ⟨_, hparse⟩ | ⟨_, ⟨_, hparse⟩ | ⟨descriptors, hparse, hagrees⟩⟩
  · rw [hparse] at h
    cases h
  · rw [hparse] at h
    cases h
  · rw [hparse] at h
    exact ⟨descriptors, (Except.ok.inj h).symm, hagrees⟩

/-- Reading any bytes ends in one of three ways, without an access behind their end. -/
structure ReadSafely (data : Bytes) : Prop where
  checked : checkedParse data = some (parse data)
  accepted : ∀ f, parse data = .ok f → Consistent data f
  other_version : OfOtherVersion data → ∃ text, parse data = .error (.notSupported text)
  malformed : ∀ e, parse data = .error e → ¬ OfOtherVersion data → ∃ text, e = .parse text

theorem parse_safe (data : Bytes) (hsize : data.size < 2 ^ 32) : ReadSafely data where
  checked := checkedParse_eq data
  accepted := by
    intro f hf
    obtain ⟨descriptors, rfl, hagrees⟩ := agrees_of_parse hf
    exact hagrees.consistent hsize
  other_version := notSupported_of_otherVersion
  malformed := fun _ he hother => parse_of_parse_error he hother

/-- Two datasets of one kind, of which only the first is found. -/
def twoSticky : List Dataset :=
  [⟨.sticky, .ofList [1, 2, 3], 5, 6⟩, ⟨.sticky, .ofList [4, 5], 7, 8⟩]

def twoStickyLayout : Layout :=
  ⟨320, 192, 8, [⟨⟨.sticky, 512, 3, 5, 6⟩, 509⟩, ⟨⟨.sticky, 1024, 2, 7, 8⟩, 0⟩], 1026⟩

def twoStickyBytes : Bytes :=
  Bytes.join (Emission.pieces twoStickyLayout .ata ⟨"ST4000", "ZA1", "SC60"⟩ twoSticky)

theorem parse_safe_twoSticky :
    twoStickyBytes.size < 2 ^ 32 ∧ ∃ f, parse twoStickyBytes = .ok f ∧
      Consistent twoStickyBytes f ∧ f.payload? .sticky = some (.ofList [1, 2, 3]) := by
  have hplan : Layout.plan twoSticky = .ok twoStickyLayout := rfl
  have hfile := size_join_pieces .ata ⟨"ST4000", "ZA1", "SC60"⟩ hplan
  have hsize : twoStickyBytes.size < 2 ^ 32 := by
    rw [twoStickyBytes, hfile]
    decide
  have hparse := (image_pieces .ata ⟨"ST4000", "ZA1", "SC60"⟩ hplan).parse hfile
  have hconsistent := (parse_safe twoStickyBytes hsize).accepted _ hparse
  refine ⟨hsize, _, hparse, hconsistent, ?_⟩
  have hfirst := hconsistent.payload_first [] _ _ rfl (by simp)
  have hslices := slice_payload_pieces .ata ⟨"ST4000", "ZA1", "SC60"⟩ hplan
  cases hslices with
  | cons hslice _ => exact hfirst.trans (congrArg some hslice.2)

end Parse

end DriveHealth.Farm.File
