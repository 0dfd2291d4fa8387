import DriveHealth.Attribute.Table
import DriveHealth.Proofs.Bytes.Places
import Mathlib.Data.List.Nodup

/-!
What the attribute table says of its two pages. It has the used slots of the data page in their
order, each with all that its record says, and the thresholds are joined by id: the order of the
threshold records makes no difference as long as no id is used twice.
-/
namespace DriveHealth.Attribute.Table

/-- A record that lies wholly inside the page. -/
structure Inside (page : Bytes) (slot : Nat) : Prop where
  lt : slot < slotCount
  fits : recordStart slot + recordLength ≤ page.size

/-- The first record with an id among those that lie wholly inside the page. -/
structure FirstOf (page : Bytes) (id : UInt8) (slot : Nat) : Prop where
  inside : Inside page slot
  id_eq : page.byteAt (recordStart slot) = id
  first : ∀ earlier < slot, page.byteAt (recordStart earlier) ≠ id

/-- An attribute with all that the record of a slot says, and the threshold that its id has. -/
structure Decodes (data : Bytes) (thresholds : Option Bytes) (slot : Nat) (a : Attribute) :
    Prop where
  id_eq : a.id = data.byteAt (recordStart slot)
  flags_eq : a.flags.toNat = (data.byteAt (recordStart slot + 1)).toNat +
    256 * (data.byteAt (recordStart slot + 2)).toNat
  nominal_eq : a.nominal = data.byteAt (recordStart slot + 3)
  worst_eq : a.worst = data.byteAt (recordStart slot + 4)
  raw_eq : ∀ i (h : i < 7), a.raw[i] = data.byteAt (recordStart slot + 5 + i)
  threshold_iff : ∀ v, a.threshold = some v ↔ ∃ page, thresholds = some page ∧
    ∃ other, FirstOf page a.id other ∧ v = page.byteAt (recordStart other + 1)

/-- The slots of a data page that hold an attribute. -/
def usedSlots (data : Bytes) : List Nat :=
  (List.range slotCount).filter fun slot => data.byteAt (recordStart slot) != 0

/-- The records of a threshold page that lie wholly inside it. -/
def records (page : Bytes) : List Bytes :=
  ((List.range slotCount).filter fun slot => recordStart slot + recordLength ≤ page.size).map
    fun slot => page.slice (recordStart slot) recordLength

def recordId (record : Bytes) : UInt8 := record.byteAt 0

/-- A page with the same records in another order, on which no id is used twice. -/
structure Shuffled (page other : Bytes) : Prop where
  perm : (records other).Perm (records page)
  nodup : (((records page).map recordId).filter (· != 0)).Nodup

/-! The threshold that goes with an id. -/

theorem recordStart_lt {slot other : Nat} (h : slot < other) :
    recordStart slot + recordLength ≤ recordStart other := by
  unfold recordStart recordLength
  omega

theorem thresholdOf?_eq (page : Bytes) (id : UInt8) : thresholdOf? page id =
    ((List.range slotCount).find? fun slot =>
      decide (recordStart slot + recordLength ≤ page.size) &&
        page.byteAt (recordStart slot) == id).map
      fun slot => page.byteAt (recordStart slot + 1) := by
  rw [thresholdOf?, List.find?_filter, List.find?_map, Option.map_map]
  simp only [Function.comp_def, Bool.decide_and, Bool.decide_eq_true]

theorem thresholdOf?_eq_some_iff {page : Bytes} {id v : UInt8} : thresholdOf? page id = some v ↔
    ∃ slot, FirstOf page id slot ∧ v = page.byteAt (recordStart slot + 1) := by
  rw [thresholdOf?_eq, Option.map_eq_some_iff]
  simp only [List.find?_range_eq_some, Bool.and_eq_true, decide_eq_true_eq, beq_iff_eq,
    List.mem_range]
  constructor
  · rintro ⟨slot, ⟨⟨hfits, hid⟩, hslot, hfirst⟩, hv⟩
    refine ⟨slot, ⟨⟨hslot, hfits⟩, hid, ?_⟩, hv.symm⟩
    intro earlier hearlier hid'
    have hbefore := recordStart_lt hearlier
    have hnot := hfirst earlier hearlier
    have hfits' : recordStart earlier + recordLength ≤ page.size := by omega
    simp [hfits', hid'] at hnot
  · rintro ⟨slot, hslot, hv⟩
    refine ⟨slot, ⟨⟨hslot.inside.fits, hslot.id_eq⟩, hslot.inside.lt, ?_⟩, hv.symm⟩
    intro earlier hearlier
    simp [hslot.first earlier hearlier]

theorem thresholdOf?_eq_find? (page : Bytes) (id : UInt8) : thresholdOf? page id =
    ((records page).find? fun record => recordId record == id).map
      fun record => record.byteAt 1 := by
  have hbyte : ∀ slot i, i < recordLength →
      (page.slice (recordStart slot) recordLength).byteAt i = page.byteAt (recordStart slot + i) :=
    fun slot i hi => Bytes.byteAt_slice page hi
  rw [thresholdOf?_eq, records, List.find?_map, List.find?_filter, Option.map_map]
  simp only [Function.comp_def, recordId, hbyte _ 0 (by decide), hbyte _ 1 (by decide),
    Nat.add_zero, Bool.decide_and, Bool.decide_eq_true]

/-- One record of an id at most is found in any order. -/
theorem find?_eq_of_perm {α : Type} {p : α → Bool} {l m : List α} (h : l.Perm m)
    (hone : l.countP p ≤ 1) : l.find? p = m.find? p := by
  have hfilter := h.filter p
  rw [List.countP_eq_length_filter] at hone
  rw [← List.head?_filter, ← List.head?_filter]
  cases hl : l.filter p with
  | nil =>
    rw [hl] at hfilter
    rw [hfilter.nil_eq]
  | cons a r =>
    rw [hl] at hfilter hone
    obtain rfl : r = [] := by
      rw [← List.length_eq_zero_iff]
      rw [List.length_cons] at hone
      omega
    rw [List.singleton_perm.mp hfilter]

theorem Shuffled.thresholdOf?_eq {page other : Bytes} (h : Shuffled page other) {id : UInt8}
    (hid : id ≠ 0) : thresholdOf? other id = thresholdOf? page id := by
  have hone : (records other).countP (fun record => recordId record == id) ≤ 1 := by
    have hcount := List.nodup_iff_count_le_one.mp h.nodup id
    have hused : (id != 0) = true := bne_iff_ne.mpr hid
    rw [List.count_filter (p := fun i => i != 0) hused, List.count_eq_countP,
      List.countP_map] at hcount
    rw [h.perm.countP_eq]
    exact hcount
  rw [thresholdOf?_eq_find?, thresholdOf?_eq_find?, find?_eq_of_perm h.perm hone]

/-! The table. -/

theorem ofPages_of_lt {data : Bytes} (h : data.size < pageLength) (thresholds : Option Bytes) :
    ofPages data thresholds =
      .error (.parse s!"SMART data is {data.size} bytes, expected {pageLength}") :=
  if_pos h

theorem attributes_eq (data : Bytes) (thresholds : Option Bytes) :
    ((List.range slotCount).map (attributeAt data thresholds)).filter (fun a => a.id != 0) =
      (usedSlots data).map (attributeAt data thresholds) := by
  rw [List.filter_map]
  rfl

theorem ofPages_of_le {data : Bytes} (h : pageLength ≤ data.size) (thresholds : Option Bytes) :
    ofPages data thresholds = .ok
      { version := data.le16 0
        attributes := (usedSlots data).map (attributeAt data thresholds)
        thresholdsLoaded := thresholds.isSome
        checksumValid := Bytes.checksumOk (data.take pageLength) } := by
  rw [ofPages, if_neg (Nat.not_lt.mpr h), attributes_eq]
  rfl

theorem decodes_attributeAt (data : Bytes) (thresholds : Option Bytes) (slot : Nat) :
    Decodes data thresholds slot (attributeAt data thresholds slot) where
  id_eq := rfl
  flags_eq := Bytes.toNat_le16 data _
  nominal_eq := rfl
  worst_eq := rfl
  raw_eq i h := by simp [attributeAt]
  threshold_iff v := by
    simp only [attributeAt, Option.bind_eq_some_iff, thresholdOf?_eq_some_iff]

/-- Where the last record of a page ends. -/
def recordsEnd : Nat := recordStart slotCount

section Agreement

variable {data other : Bytes} (h : ∀ i < recordsEnd, other.byteAt i = data.byteAt i)

include h

theorem attributeAt_eq (thresholds : Option Bytes) {slot : Nat} (hslot : slot < slotCount) :
    attributeAt other thresholds slot = attributeAt data thresholds slot := by
  have hend : recordStart slot + recordLength ≤ recordsEnd := recordStart_lt hslot
  have hbyte : ∀ k < recordLength,
      other.byteAt (recordStart slot + k) = data.byteAt (recordStart slot + k) :=
    fun k hk => h _ (by omega)
  have hraw : ∀ k < 7, other.byteAt (recordStart slot + 5 + k) =
      data.byteAt (recordStart slot + 5 + k) :=
    fun k hk => h _ (by unfold recordLength at hend; omega)
  have hflags : other.le16 (recordStart slot + 1) = data.le16 (recordStart slot + 1) :=
    Bytes.le16_congr fun k hk => h _ (by unfold recordLength at hend; omega)
  have hid := hbyte 0 (by decide)
  rw [Nat.add_zero] at hid
  unfold attributeAt
  simp only [hid, hflags, hbyte 3 (by decide), hbyte 4 (by decide), Attribute.mk.injEq, true_and,
    and_true]
  ext k hk
  simp [hraw k hk]

theorem usedSlots_eq : usedSlots other = usedSlots data := by
  refine List.filter_congr fun slot hslot => ?_
  have hend := recordStart_lt (List.mem_range.mp hslot)
  rw [h (recordStart slot) (Nat.lt_of_lt_of_le (by unfold recordLength; omega) hend)]

end Agreement

theorem attributeAt_of_shuffled {page other : Bytes} (h : Shuffled page other) {data : Bytes}
    {slot : Nat} (hused : data.byteAt (recordStart slot) ≠ 0) :
    attributeAt data (some other) slot = attributeAt data (some page) slot := by
  simp only [attributeAt, Option.bind_some, h.thresholdOf?_eq hused]

theorem ne_zero_of_mem_usedSlots {data : Bytes} {slot : Nat} (h : slot ∈ usedSlots data) :
    data.byteAt (recordStart slot) ≠ 0 :=
  bne_iff_ne.mp (List.mem_filter.mp h).2

theorem lt_of_mem_usedSlots {data : Bytes} {slot : Nat} (h : slot ∈ usedSlots data) :
    slot < slotCount :=
  List.mem_range.mp (List.mem_filter.mp h).1

/-- What a data page and a threshold page are read as. -/
structure Decoded (data : Bytes) (thresholds : Option Bytes) (t : Table) : Prop where
  version_eq : t.version.toNat = (data.byteAt 0).toNat + 256 * (data.byteAt 1).toNat
  attributes : List.Forall₂ (Decodes data thresholds) (usedSlots data) t.attributes
  thresholdsLoaded_eq : t.thresholdsLoaded = thresholds.isSome
  checksumValid_iff : t.checksumValid = true ↔ (data.take pageLength).byteSum % 256 = 0
  /-- Bytes behind the records count for the checksum alone. -/
  other_data : ∀ other : Bytes, pageLength ≤ other.size →
    (∀ i < recordsEnd, other.byteAt i = data.byteAt i) →
    ∃ checksumValid, ofPages other thresholds = .ok { t with checksumValid := checksumValid }
  other_thresholds : ∀ page ∈ thresholds, ∀ other, Shuffled page other →
    ofPages data (some other) = .ok t

theorem exists_decoded {data : Bytes} (h : pageLength ≤ data.size) (thresholds : Option Bytes) :
    ∃ t, ofPages data thresholds = .ok t ∧ Decoded data thresholds t := by
  refine ⟨_, ofPages_of_le h thresholds, ?_⟩
  constructor
  case version_eq => exact Bytes.toNat_le16 data 0
  case attributes =>
    rw [List.forall₂_map_right_iff, List.forall₂_same]
    exact fun slot _ => decodes_attributeAt data thresholds slot
  case thresholdsLoaded_eq => rfl
  case checksumValid_iff => exact Bytes.checksumOk_iff _
  case other_data =>
    intro other hother hagree
    have hattributes : (usedSlots other).map (attributeAt other thresholds) =
        (usedSlots data).map (attributeAt data thresholds) := by
      rw [usedSlots_eq hagree]
      exact List.map_congr_left fun slot hslot =>
        attributeAt_eq hagree thresholds (lt_of_mem_usedSlots hslot)
    have hversion : other.le16 0 = data.le16 0 :=
      Bytes.le16_congr fun k hk => hagree _ (by unfold recordsEnd recordStart; omega)
    refine ⟨Bytes.checksumOk (other.take pageLength), ?_⟩
    rw [ofPages_of_le hother, hattributes, hversion]
  case other_thresholds =>
    rintro page hpage other hshuffled
    obtain rfl := Option.mem_def.mp hpage
    rw [ofPages_of_le h, List.map_congr_left fun slot hslot =>
      attributeAt_of_shuffled hshuffled (ne_zero_of_mem_usedSlots hslot)]
    rfl

/-- A data page of full length is read with its own records and the thresholds of their ids, a
shorter one is refused. -/
theorem ofPages_decoded (data : Bytes) (thresholds : Option Bytes) :
    (data.size < pageLength → ofPages data thresholds =
      .error (.parse s!"SMART data is {data.size} bytes, expected {pageLength}")) ∧
    (pageLength ≤ data.size →
      ∃ t, ofPages data thresholds = .ok t ∧ Decoded data thresholds t) :=
  ⟨fun h => ofPages_of_lt h thresholds, fun h => exists_decoded h thresholds⟩

example : pageLength = 512 ∧ slotCount = 30 ∧ recordStart 29 = 350 ∧ recordsEnd = 362 := by
  decide

end DriveHealth.Attribute.Table
