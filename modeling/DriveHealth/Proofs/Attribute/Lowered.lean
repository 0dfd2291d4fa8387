import DriveHealth.Proofs.Attribute.Worst

/-!
Attributes that have come down. An attribute whose nominal and worst values are lower trips whenever
it did before, and fails whenever it did before, so a table of such attributes is no less severe. An
attribute trips only by a threshold that is a number or always fails.
-/
namespace DriveHealth.Attribute

open Table

/-- The same attribute with values that are no higher, and in range. -/
structure Lowered (a b : Attribute) : Prop where
  flags_eq : b.flags = a.flags
  threshold_eq : b.threshold = a.threshold
  nominal_le : b.nominal ≤ a.nominal
  worst_le : b.worst ≤ a.worst
  nominal_inRange : inRange b.nominal = true
  worst_inRange : inRange b.worst = true

namespace Lowered

variable {a b : Attribute}

theorem trips (h : Lowered a b) (ha : Trips a) : Trips b := by
  obtain ⟨threshold, hthreshold, hcrosses⟩ := ha
  refine ⟨threshold, h.threshold_eq.trans hthreshold, ?_⟩
  cases hcrosses with
  | always halways => exact .always halways
  | compared hzero hinvalid _ _ hbelow =>
    refine .compared hzero hinvalid h.nominal_inRange h.worst_inRange ?_
    rcases hbelow with hnominal | hworst
    · exact .inl (UInt8.le_trans h.nominal_le hnominal)
    · exact .inr (UInt8.le_trans h.worst_le hworst)

theorem fails (h : Lowered a b) (ha : Fails a) : Fails b := by
  obtain ⟨htrips, hsevere⟩ := ha
  refine ⟨h.trips htrips, ?_⟩
  rw [prefail, h.flags_eq, h.threshold_eq]
  exact hsevere

end Lowered

/-- How severe the worst of some attributes is, zero if none has tripped. -/
def rank (worst : Option CheckStatus) : Nat := (worst.map CheckStatus.severity).getD 0

theorem Worst.rank_le {l m : List Attribute} {worst worst' : Option (CheckStatus × Attribute)}
    (h : Worst l worst) (h' : Worst m worst') (hlowered : ∀ a ∈ l, ∃ b ∈ m, Lowered a b) :
    rank (worst.map Prod.fst) ≤ rank (worst'.map Prod.fst) := by
  cases h with
  | untripped _ => exact Nat.zero_le _
  | warning before after a hsplit htrips _ _ =>
    obtain ⟨b, hb, hab⟩ := hlowered a (hsplit ▸ List.mem_append_right _ List.mem_cons_self)
    cases h' with
    | untripped hm => exact absurd (hab.trips htrips) (hm b hb)
    | warning _ _ _ _ _ _ _ => exact Nat.le_refl _
    | fail _ _ _ _ _ _ => exact Nat.le_succ 3
  | fail before after a hsplit hfails _ =>
    obtain ⟨b, hb, hab⟩ := hlowered a (hsplit ▸ List.mem_append_right _ List.mem_cons_self)
    cases h' with
    | untripped hm => exact absurd (hab.trips hfails.1) (hm b hb)
    | warning _ _ _ _ _ _ hm => exact absurd (hab.fails hfails) (hm b hb)
    | fail _ _ _ _ _ _ => exact Nat.le_refl _

/-- A record of a data page that is empty, or keeps its id and its flags and has values that are no
higher. The raw bytes may be any. -/
inductive LoweredRecord (fresh worn : Bytes) (off : Nat) : Prop
  | empty : fresh.byteAt off = 0 → worn.byteAt off = 0 → LoweredRecord fresh worn off
  | used : worn.byteAt off = fresh.byteAt off → worn.le16 (off + 1) = fresh.le16 (off + 1) →
      worn.byteAt (off + 3) ≤ fresh.byteAt (off + 3) →
      worn.byteAt (off + 4) ≤ fresh.byteAt (off + 4) →
      inRange (worn.byteAt (off + 3)) = true → inRange (worn.byteAt (off + 4)) = true →
      LoweredRecord fresh worn off

/-- A data page of the same length with lowered records. -/
structure LoweredPage (fresh worn : Bytes) : Prop where
  size_eq : worn.size = fresh.size
  record : ∀ slot < slotCount, LoweredRecord fresh worn (recordStart slot)

theorem mem_attributes_iff {data : Bytes} {thresholds : Option Bytes} {table : Table}
    (h : ofPages data thresholds = .ok table) {a : Attribute} : a ∈ table.attributes ↔
      ∃ slot < slotCount, data.byteAt (recordStart slot) ≠ 0 ∧
        attributeAt data thresholds slot = a := by
  unfold ofPages at h
  split at h
  · cases h
  · cases h
    simp only [List.mem_filter, List.mem_map, List.mem_range, bne_iff_ne]
    constructor
    · rintro ⟨⟨slot, hslot, rfl⟩, hid⟩
      exact ⟨slot, hslot, hid, rfl⟩
    · rintro ⟨slot, hslot, hid, rfl⟩
      exact ⟨⟨slot, hslot, rfl⟩, hid⟩

/-- With the same thresholds every attribute of a page is found again, lowered. -/
theorem LoweredPage.exists_lowered {fresh worn : Bytes} {thresholds : Option Bytes}
    {table table' : Table} (h : LoweredPage fresh worn)
    (hfresh : ofPages fresh thresholds = .ok table)
    (hworn : ofPages worn thresholds = .ok table') :
    ∀ a ∈ table.attributes, ∃ b ∈ table'.attributes, Lowered a b := by
  intro a ha
  obtain ⟨slot, hslot, hid, rfl⟩ := (mem_attributes_iff hfresh).mp ha
  cases h.record slot hslot with
  | empty hempty _ => exact absurd hempty hid
  | used hsame hflags hnominal hworst hnominalRange hworstRange =>
    refine ⟨attributeAt worn thresholds slot, (mem_attributes_iff hworn).mpr ?_, ?_⟩
    · exact ⟨slot, hslot, hsame ▸ hid, rfl⟩
    · have hthreshold : thresholds.bind (fun page => thresholdOf? page
          (worn.byteAt (recordStart slot))) =
          thresholds.bind fun page => thresholdOf? page (fresh.byteAt (recordStart slot)) := by
        rw [hsame]
      exact ⟨hflags, hthreshold, hnominal, hworst, hnominalRange, hworstRange⟩

/-- A page on which no threshold is a number, nor one that always fails; or no page. -/
def Mute (thresholds : Option Bytes) : Prop :=
  ∀ page ∈ thresholds, ∀ slot < slotCount, page.byteAt (recordStart slot) ≠ 0 →
    page.byteAt (recordStart slot + 1) = 0 ∨ page.byteAt (recordStart slot + 1) = 0xFE

theorem mute_none : Mute none := by
  intro page hpage
  cases hpage

theorem exists_slot_of_thresholdOf? {page : Bytes} {id threshold : UInt8}
    (h : thresholdOf? page id = some threshold) : ∃ slot < slotCount,
      page.byteAt (recordStart slot) = id ∧ page.byteAt (recordStart slot + 1) = threshold := by
  unfold thresholdOf? at h
  obtain ⟨off, hfound, hthreshold⟩ := Option.map_eq_some_iff.mp h
  have hid := List.find?_some hfound
  obtain ⟨hstart, _⟩ := List.mem_filter.mp (List.mem_of_find?_eq_some hfound)
  obtain ⟨slot, hslot, rfl⟩ := List.mem_map.mp hstart
  exact ⟨slot, List.mem_range.mp hslot, eq_of_beq hid, hthreshold⟩

theorem not_trips_of_mute {data : Bytes} {thresholds : Option Bytes} {table : Table}
    (hmute : Mute thresholds) (h : ofPages data thresholds = .ok table) :
    ∀ a ∈ table.attributes, ¬Trips a := by
  intro a ha htrips
  obtain ⟨slot, _, hid, rfl⟩ := (mem_attributes_iff h).mp ha
  obtain ⟨threshold, hthreshold, hcrosses⟩ := htrips
  obtain ⟨page, hpage, hof⟩ := Option.bind_eq_some_iff.mp hthreshold
  obtain ⟨other, hother, hname, rfl⟩ := exists_slot_of_thresholdOf? hof
  have hsilent := hmute page hpage other hother (hname ▸ hid)
  cases hcrosses with
  | always halways =>
    rw [halways] at hsilent
    revert hsilent
    decide
  | compared hzero hinvalid _ _ _ =>
    rcases hsilent with hnothing | hnonsense
    · exact hzero hnothing
    · exact hinvalid hnonsense

end DriveHealth.Attribute
