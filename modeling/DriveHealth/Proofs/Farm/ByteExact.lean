import DriveHealth.Proofs.Farm.Bitmap
import DriveHealth.Proofs.Farm.Tiling

/-!
The layout of a combined file, byte by byte. A layout exists exactly when the counts, lengths and
starts fit their words; then the placements tile the file behind the descriptors, and the bitmap
holds the bits of the kinds.
-/
namespace DriveHealth.Farm.Layout

/-- The length of the header and of so many descriptors. -/
def tableLength (n : Nat) : Nat := 256 + 32 * n

def firstStart (l : List Dataset) : Nat := tableLength l.length + padding (tableLength l.length)

theorem firstStart_dvd (l : List Dataset) : 512 ∣ firstStart l :=
  dvd_add_padding (tableLength l.length)

theorem tableLength_lt_iff (n : Nat) : tableLength n < 2 ^ 16 ↔ n ≤ 2039 := by
  unfold tableLength
  omega

/-- The counts, lengths and starts of a file with these datasets are words of their widths. -/
structure Fits (l : List Dataset) : Prop where
  count : l.length ≤ 2039
  length : ∀ d ∈ l, d.payload.size < 2 ^ 32
  start : ∀ s ∈ starts (firstStart l) (l.map fun d => d.payload.size), s < 2 ^ 32

/-- The layout that belongs to placements of the datasets. -/
def ofPlacements (l : List Dataset) (ps : List Placement) (stop : Nat) : Layout :=
  ⟨.ofNat (tableLength l.length), padding (tableLength l.length),
    Kind.bitmap (l.map Dataset.kind), ps, stop⟩

theorem plan_eq_map {l : List Dataset} (h : l.length ≤ 2039) :
    plan l = (place (firstStart l) l).map fun x => ofPlacements l x.1 x.2 := by
  have hlt : ¬ 2 ^ 16 ≤ headerSize + descriptorSize * l.length :=
    Nat.not_le.mpr ((tableLength_lt_iff l.length).mpr h)
  have hstart : Bytes.roundUp (headerSize + descriptorSize * l.length) alignment = firstStart l :=
    roundUp_alignment (tableLength l.length)
  have hpadding : firstStart l - (headerSize + descriptorSize * l.length) =
      padding (tableLength l.length) :=
    Nat.add_sub_cancel_left _ _
  rw [plan]
  simp only [if_neg hlt, hstart, hpadding]
  cases place (firstStart l) l with
  | error e => rfl
  | ok x => rfl

theorem length_le_of_plan {l : List Dataset} {y : Layout} (h : plan l = .ok y) :
    l.length ≤ 2039 := by
  by_contra hcount
  have hlong : 2 ^ 16 ≤ headerSize + descriptorSize * l.length :=
    Nat.not_lt.mp fun hlt => hcount ((tableLength_lt_iff l.length).mp hlt)
  rw [plan] at h
  simp only [if_pos hlong] at h
  cases h

/-- A layout comes from placements that tile the file behind the descriptors. -/
theorem tiles_of_plan {l : List Dataset} {y : Layout} (h : plan l = .ok y) :
    Tiles (firstStart l) l y.placements y.fileSize ∧
      y = ofPlacements l y.placements y.fileSize := by
  rw [plan_eq_map (length_le_of_plan h)] at h
  cases hplace : place (firstStart l) l with
  | error e =>
    rw [hplace] at h
    cases h
  | ok x =>
    rw [hplace] at h
    cases h
    exact ⟨tiles_of_place hplace, rfl⟩

theorem exists_plan_iff (l : List Dataset) : (∃ y, plan l = .ok y) ↔ Fits l := by
  constructor
  · rintro ⟨y, hy⟩
    have hcount := length_le_of_plan hy
    rw [plan_eq_map hcount] at hy
    have hplace : ∃ x, place (firstStart l) l = .ok x := by
      cases hx : place (firstStart l) l with
      | error e =>
        rw [hx] at hy
        cases hy
      | ok x => exact ⟨x, rfl⟩
    obtain ⟨hlength, hstart⟩ := (exists_place_iff _ l).mp hplace
    exact ⟨hcount, hlength, hstart⟩
  · intro h
    obtain ⟨x, hx⟩ := (exists_place_iff (firstStart l) l).mpr ⟨h.length, h.start⟩
    exact ⟨ofPlacements l x.1 x.2, by rw [plan_eq_map h.count, hx]; rfl⟩

/-- A layout of datasets that is right in every byte. -/
structure ByteExact (l : List Dataset) (y : Layout) : Prop where
  header_length : y.headerLength.toNat = 256 + 32 * l.length
  header_padding : y.headerPadding = padding (256 + 32 * l.length)
  /-- Each descriptor is that of its dataset. -/
  holds : List.Forall₂ (fun p d => p.Holds p.start d) y.placements l
  /-- Every padding but the last fills up a block of 512 bytes. -/
  padding_least : ∀ p ∈ y.placements.dropLast, p.padding = padding p.stop
  padding_last : ∀ p ∈ y.placements.getLast?, p.padding = 0
  start_aligned : ∀ p ∈ y.placements, 512 ∣ p.start
  start_first : ∀ p ∈ y.placements.head?, p.start = y.headerLength.toNat + y.headerPadding
  start_next : y.placements.IsChain fun p q => q.start = p.stop + p.padding
  /-- The payloads lie one behind the other, and behind the descriptors. -/
  in_order : y.placements.Pairwise fun p q => p.stop ≤ q.start
  behind_table : ∀ p ∈ y.placements, y.headerLength.toNat ≤ p.start
  file_size : y.fileSize = y.headerLength.toNat + y.headerPadding +
    (y.placements.map fun p => p.descriptor.length.toNat + p.padding).sum
  bitmap_bit : ∀ b, y.bitmap.toNat.testBit b = true ↔ ∃ d ∈ l, d.kind.bit = b
  bitmap_count : (Kind.setBits y.bitmap).card = l.length ↔ (l.map Dataset.kind).Nodup

theorem headerLength_of_plan {l : List Dataset} {y : Layout} (h : plan l = .ok y) :
    y.headerLength.toNat = tableLength l.length := by
  obtain ⟨_, heq⟩ := tiles_of_plan h
  rw [heq]
  exact UInt16.toNat_ofNat_of_lt' ((tableLength_lt_iff l.length).mpr (length_le_of_plan h))

theorem headerPadding_of_plan {l : List Dataset} {y : Layout} (h : plan l = .ok y) :
    y.headerPadding = padding (tableLength l.length) := by
  obtain ⟨_, heq⟩ := tiles_of_plan h
  rw [heq]
  rfl

theorem bitmap_of_plan {l : List Dataset} {y : Layout} (h : plan l = .ok y) :
    y.bitmap = Kind.bitmap (l.map Dataset.kind) := by
  obtain ⟨_, heq⟩ := tiles_of_plan h
  rw [heq]
  rfl

/-- Datasets have a layout exactly when everything fits, and then it is right in every byte. -/
theorem plan_byteExact (l : List Dataset) :
    ((∃ y, plan l = .ok y) ↔ Fits l) ∧ ∀ y, plan l = .ok y → ByteExact l y := by
  refine ⟨exists_plan_iff l, ?_⟩
  intro y hy
  obtain ⟨htiles, _⟩ := tiles_of_plan hy
  have hheader := headerLength_of_plan hy
  have hpadding := headerPadding_of_plan hy
  have hfirst : firstStart l = y.headerLength.toNat + y.headerPadding := by
    rw [hheader, hpadding, firstStart]
  exact {
    header_length := hheader
    header_padding := hpadding
    holds := htiles.forall_holds
    padding_least := htiles.padding_of_mem_dropLast
    padding_last := htiles.padding_of_last
    start_aligned := htiles.dvd_start (firstStart_dvd l)
    start_first := fun p hp => (htiles.start_of_head p hp).trans hfirst
    start_next := htiles.isChain
    in_order := htiles.pairwise
    behind_table := by
      intro p hp
      have hstart := htiles.offset_le_start p hp
      omega
    file_size := hfirst ▸ htiles.stop_eq
    bitmap_bit := by
      intro b
      rw [bitmap_of_plan hy, Kind.testBit_bitmap]
      simp
    bitmap_count := by
      rw [bitmap_of_plan hy, ← Kind.card_setBits_bitmap, List.length_map]
  }

/-- A payload of three bytes and one of a single byte: only the first is padded. -/
theorem plan_byteExact_two :
    ByteExact [⟨.current, .ofList [1, 2, 3], 5, 6⟩, ⟨.sticky, .ofList [4], 7, 9⟩]
      ⟨320, 192, 9, [⟨⟨.current, 512, 3, 5, 6⟩, 509⟩, ⟨⟨.sticky, 1024, 1, 7, 9⟩, 0⟩], 1025⟩ :=
  (plan_byteExact _).2 _ rfl

end DriveHealth.Farm.Layout
