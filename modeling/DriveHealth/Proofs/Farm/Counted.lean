import DriveHealth.Proofs.Farm.Accepted

/-!
The header of a combined file counts its descriptors twice. The count and the length of the header
give their number, and the bitmap gives their kinds. The bitmap is compared with the bits that the
descriptors set, and a kind that repeats sets its bit again. So the bits count the descriptors
exactly when no kind repeats, and of a kind that repeats only the first descriptor is ever read.
-/
namespace DriveHealth.Farm.File

open Layout

def kinds (f : File) : List Kind := f.summary.descriptors.map Descriptor.kind

/-- The place of the descriptor that is read for a kind. -/
def place? (f : File) (k : Kind) : Option Nat :=
  f.summary.descriptors.findIdx? fun d => d.kind == k

/-- How the counts of a file hang together. -/
structure Counted (data : Bytes) (f : File) : Prop where
  count : f.summary.descriptors.length = (data.le16 252).toNat
  header_length : f.summary.headerLength.toNat = 256 + 32 * f.summary.descriptors.length
  set_bits : (Kind.setBits f.summary.bitmap).card = f.kinds.toFinset.card
  set_bits_le : 256 + 32 * (Kind.setBits f.summary.bitmap).card ≤ f.summary.headerLength.toNat
  /-- The bits count the descriptors exactly when no kind repeats. -/
  set_bits_iff : f.summary.headerLength.toNat = 256 + 32 * (Kind.setBits f.summary.bitmap).card ↔
    f.kinds.Nodup
  /-- Then, and only then, every descriptor is the one that is read for its kind. -/
  reached_iff : (∀ i (h : i < f.summary.descriptors.length),
    f.place? f.summary.descriptors[i].kind = some i) ↔ f.kinds.Nodup
  /-- The payload of a kind lies where the descriptor that is read says. -/
  payload : ∀ k i (h : i < f.summary.descriptors.length), f.place? k = some i →
    f.summary.descriptors[i].offset.toNat + f.summary.descriptors[i].length.toNat < 2 ^ 32 →
    f.payload? k = some (data.slice f.summary.descriptors[i].offset.toNat
      f.summary.descriptors[i].length.toNat)

section Counts

variable {data : Bytes} {descriptors : List Descriptor} {f : File}

theorem count_of_readTable (h : readTable data = .ok f) :
    (data.le16 116).toNat = headerSize + (data.le16 252).toNat * descriptorSize := by
  unfold readTable at h
  dsimp only at h
  split at h
  · cases h
  split at h
  · cases h
  · rename_i hlength
    rw [not_or, not_not] at hlength
    exact hlength.1

theorem count_of_parse (h : parse data = .ok f) :
    (data.le16 116).toNat = headerSize + (data.le16 252).toNat * descriptorSize := by
  unfold parse at h
  split at h
  · cases h
  split at h
  · cases h
  split at h
  · cases h
  · exact count_of_readTable h

/-- Each descriptor is the first of its kind exactly when no kind repeats. -/
theorem forall_findIdx?_iff_nodup (l : List Descriptor) :
    (∀ i (h : i < l.length), l.findIdx? (fun d => d.kind == l[i].kind) = some i) ↔
      (l.map Descriptor.kind).Nodup := by
  rw [List.Nodup, List.pairwise_map, List.pairwise_iff_getElem]
  constructor
  · intro hfirst i j hi hj hij
    obtain ⟨_, _, hbefore⟩ := List.findIdx?_eq_some_iff_getElem.mp (hfirst j hj)
    have hother := hbefore i hij
    simpa using hother
  · intro hdistinct i hi
    apply List.findIdx?_eq_some_iff_getElem.mpr
    refine ⟨hi, beq_self_eq_true _, ?_⟩
    intro j hji
    have hother := hdistinct j i (hji.trans hi) hi hji
    simpa using hother

theorem find?_of_findIdx? {l : List Descriptor} {p : Descriptor → Bool} {i : Nat}
    (h : i < l.length) (hi : l.findIdx? p = some i) : l.find? p = some l[i] := by
  obtain ⟨_, hfound, hbefore⟩ := List.findIdx?_eq_some_iff_getElem.mp hi
  apply List.find?_eq_some_iff_getElem.mpr
  refine ⟨hfound, i, h, rfl, ?_⟩
  intro j hj
  have hother := hbefore j hj
  simpa using hother

/-- An end that is a word of 32 bits is not wrapped. -/
theorem payload?_of_find? {k : Kind} {d : Descriptor}
    (hfind : f.summary.descriptors.find? (fun e => e.kind == k) = some d)
    (hword : d.offset.toNat + d.length.toNat < 2 ^ 32) :
    f.payload? k = some (f.data.slice d.offset.toNat d.length.toNat) := by
  have hstop : (d.offset + d.length).toNat = d.offset.toNat + d.length.toNat := by
    rw [UInt32.toNat_add, Nat.mod_eq_of_lt hword]
  rw [payload?, hfind, Option.map_some, hstop, Bytes.slice]

theorem Agrees.counted (h : Agrees data descriptors)
    (hcount : (data.le16 116).toNat = headerSize + (data.le16 252).toNat * descriptorSize) :
    Counted data ⟨readSummary data (data.le16 116) descriptors, data⟩ := by
  have hlength : (data.le16 116).toNat = 256 + 32 * descriptors.length := by
    rw [h.length, headerSize, descriptorSize, Nat.mul_comm]
  have hbits : (Kind.setBits (data.le32 118)).card =
      (descriptors.map Descriptor.kind).toFinset.card := by
    rw [h.bitmap, Kind.card_setBits]
  have hle : (Kind.setBits (data.le32 118)).card ≤ descriptors.length := by
    have hkinds := List.toFinset_card_le (descriptors.map Descriptor.kind)
    rwa [← hbits, List.length_map] at hkinds
  exact {
    count := by
      have hsame : descriptors.length * descriptorSize =
          (data.le16 252).toNat * descriptorSize := by
        have hdescriptors := h.length
        omega
      exact Nat.eq_of_mul_eq_mul_right (by decide) hsame
    header_length := hlength
    set_bits := hbits
    set_bits_le := by
      show 256 + 32 * (Kind.setBits (data.le32 118)).card ≤ (data.le16 116).toNat
      omega
    set_bits_iff := by
      show (data.le16 116).toNat = 256 + 32 * (Kind.setBits (data.le32 118)).card ↔
        (descriptors.map Descriptor.kind).Nodup
      rw [← Kind.card_setBits_bitmap, ← h.bitmap, List.length_map]
      omega
    reached_iff := forall_findIdx?_iff_nodup descriptors
    payload := by
      intro k i hi hplace hword
      exact payload?_of_find? (find?_of_findIdx? hi hplace) hword
  }

/-- The bits of an accepted file count its descriptors exactly when no kind repeats. -/
theorem parse_counted (h : parse data = .ok f) : Counted data f := by
  have hcount := count_of_parse h
  obtain ⟨descriptors, rfl, hagrees⟩ := agrees_of_parse h
  exact hagrees.counted hcount

end Counts

/-- Two descriptors, but one bit. -/
theorem parse_counted_twoSticky : ∃ f, parse twoStickyBytes = .ok f ∧ Counted twoStickyBytes f ∧
    f.kinds = [.sticky, .sticky] ∧ f.summary.headerLength = 320 ∧
    (Kind.setBits f.summary.bitmap).card = 1 := by
  have hplan : Layout.plan twoSticky = .ok twoStickyLayout := rfl
  have hfile := size_join_pieces .ata ⟨"ST4000", "ZA1", "SC60"⟩ hplan
  have hparse : parse twoStickyBytes = .ok _ :=
    (image_pieces .ata ⟨"ST4000", "ZA1", "SC60"⟩ hplan).parse hfile
  have hcounted := parse_counted hparse
  have hbits := hcounted.set_bits
  exact ⟨_, hparse, hcounted, rfl, rfl, hbits⟩

/-- A file is accepted although its header is longer than its bits say. -/
theorem not_parse_set_bits : ¬ ∀ (data : Bytes) (f : File), parse data = .ok f →
    f.summary.headerLength.toNat = 256 + 32 * (Kind.setBits f.summary.bitmap).card := by
  intro h
  have hplan : Layout.plan twoSticky = .ok twoStickyLayout := rfl
  have hfile := size_join_pieces .ata ⟨"ST4000", "ZA1", "SC60"⟩ hplan
  have hparse := (image_pieces .ata ⟨"ST4000", "ZA1", "SC60"⟩ hplan).parse hfile
  have hlength := h twoStickyBytes _ hparse
  exact absurd hlength (by decide)

end DriveHealth.Farm.File
