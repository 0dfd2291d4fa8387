import DriveHealth.Farm.Layout
import Mathlib.Algebra.GroupWithZero.Nat
import Mathlib.Data.List.Chain
import Mathlib.Data.Nat.Find

/-!
The places of the payloads in a combined file. A tiling lays the payloads one behind the other
from an offset on, with the least padding between two of them and none behind the last. Placing
datasets succeeds exactly when their lengths and starts are words of 32 bits, and then it is a
tiling, so every fact about the offsets of a file is an induction on tilings.
-/
namespace DriveHealth.Farm.Layout

theorem exists_padding (offset : Nat) : ∃ p, 512 ∣ offset + p :=
  ⟨511 * offset, by omega⟩

/-- The smallest number of bytes that brings an offset to a multiple of 512. -/
def padding (offset : Nat) : Nat := Nat.find (exists_padding offset)

theorem dvd_add_padding (offset : Nat) : 512 ∣ offset + padding offset :=
  Nat.find_spec (exists_padding offset)

theorem padding_le {offset p : Nat} (h : 512 ∣ offset + p) : padding offset ≤ p :=
  Nat.find_min' (exists_padding offset) h

theorem padding_eq_of_dvd {offset p : Nat} (h : 512 ∣ offset + p) (hp : p < 512) :
    padding offset = p := by
  have hle : padding offset ≤ p := padding_le h
  have hdvd : 512 ∣ offset + padding offset := dvd_add_padding offset
  omega

/-- Clearing the low bits of a sum is rounding up. -/
theorem roundUp_alignment (offset : Nat) :
    Bytes.roundUp offset alignment = offset + padding offset := by
  have hmask : (offset + 511) &&& 511 = (offset + 511) % 512 :=
    Nat.and_two_pow_sub_one_eq_mod (offset + 511) 9
  have hround : Bytes.roundUp offset alignment = offset + 511 - (offset + 511) % 512 := by
    simp only [Bytes.roundUp, alignment, Nat.reduceSub, hmask]
  have hpad : padding offset = offset + 511 - (offset + 511) % 512 - offset :=
    padding_eq_of_dvd (by omega) (by omega)
  rw [hround, hpad]
  omega

theorem roundUp_alignment_sub (offset : Nat) :
    Bytes.roundUp offset alignment - offset = padding offset := by
  rw [roundUp_alignment, Nat.add_sub_cancel_left]

/-- Where payloads of the given lengths start when the first one starts at an offset. -/
def starts (offset : Nat) : List Nat → List Nat
  | [] => []
  | n :: r => offset :: starts (offset + n + padding (offset + n)) r

end Layout

namespace Placement

def start (p : Placement) : Nat := p.descriptor.offset.toNat

/-- The end of the payload, before its padding. -/
def stop (p : Placement) : Nat := p.start + p.descriptor.length.toNat

/-- A placement that holds a dataset at an offset. -/
structure Holds (p : Placement) (offset : Nat) (d : Dataset) : Prop where
  kind_eq : p.descriptor.kind = d.kind
  start_eq : p.start = offset
  length_eq : p.descriptor.length.toNat = d.payload.size
  startTime_eq : p.descriptor.startTime = d.startTime
  endTime_eq : p.descriptor.endTime = d.endTime

theorem Holds.stop_eq {p : Placement} {offset : Nat} {d : Dataset} (h : p.Holds offset d) :
    p.stop = offset + d.payload.size := by
  rw [stop, h.start_eq, h.length_eq]

end Placement

namespace Layout

/-- The placements tile the bytes from an offset to a stop with the datasets, in order. -/
inductive Tiles : Nat → List Dataset → List Placement → Nat → Prop
  | nil (offset : Nat) : Tiles offset [] [] offset
  | last {offset : Nat} {d : Dataset} {p : Placement} :
      p.Holds offset d → p.padding = 0 → Tiles offset [d] [p] p.stop
  | cons {offset stop : Nat} {d e : Dataset} {r : List Dataset} {p : Placement}
      {ps : List Placement} :
      p.Holds offset d → p.padding = padding p.stop →
      Tiles (p.stop + p.padding) (e :: r) ps stop → Tiles offset (d :: e :: r) (p :: ps) stop

/-- The placement of a dataset at an offset, in front of others. -/
def placed (offset : Nat) (d : Dataset) (r : List Dataset) : Placement :=
  ⟨⟨d.kind, .ofNat offset, .ofNat d.payload.size, d.startTime, d.endTime⟩,
    if r.isEmpty then 0 else padding (offset + d.payload.size)⟩

theorem placed_holds {offset : Nat} {d : Dataset} (r : List Dataset)
    (hsize : d.payload.size < 2 ^ 32) (hoffset : offset < 2 ^ 32) :
    (placed offset d r).Holds offset d where
  kind_eq := rfl
  start_eq := UInt32.toNat_ofNat_of_lt' hoffset
  length_eq := UInt32.toNat_ofNat_of_lt' hsize
  startTime_eq := rfl
  endTime_eq := rfl

theorem place_cons {offset : Nat} {d : Dataset} {r : List Dataset}
    (hsize : d.payload.size < 2 ^ 32) (hoffset : offset < 2 ^ 32) :
    place offset (d :: r) =
      (place (offset + d.payload.size + (placed offset d r).padding) r).map
        fun x => (placed offset d r :: x.1, x.2) := by
  rw [place, if_neg (Nat.not_le.mpr hsize), if_neg (Nat.not_le.mpr hoffset)]
  simp only [roundUp_alignment_sub]
  cases hrest : place (offset + d.payload.size + (placed offset d r).padding) r with
  | error e =>
    simp only [placed] at hrest
    simp only [hrest, Except.map]
  | ok x =>
    simp only [placed] at hrest
    simp only [hrest, Except.map, placed]

theorem bounds_of_place_cons {offset : Nat} {d : Dataset} {r : List Dataset}
    {x : List Placement × Nat} (h : place offset (d :: r) = .ok x) :
    d.payload.size < 2 ^ 32 ∧ offset < 2 ^ 32 := by
  rw [place] at h
  by_cases hsize : 2 ^ 32 ≤ d.payload.size
  · rw [if_pos hsize] at h
    cases h
  · by_cases hoffset : 2 ^ 32 ≤ offset
    · rw [if_neg hsize, if_pos hoffset] at h
      cases h
    · exact ⟨Nat.not_le.mp hsize, Nat.not_le.mp hoffset⟩

/-- What a placed list starts with, and what follows it. -/
theorem place_cons_eq_ok {offset stop : Nat} {d : Dataset} {r : List Dataset}
    {ps : List Placement} (h : place offset (d :: r) = .ok (ps, stop)) :
    (placed offset d r).Holds offset d ∧ ∃ qs, ps = placed offset d r :: qs ∧
      place (offset + d.payload.size + (placed offset d r).padding) r = .ok (qs, stop) := by
  obtain ⟨hsize, hoffset⟩ := bounds_of_place_cons h
  refine ⟨placed_holds r hsize hoffset, ?_⟩
  rw [place_cons hsize hoffset] at h
  cases hrest : place (offset + d.payload.size + (placed offset d r).padding) r with
  | error e =>
    rw [hrest] at h
    cases h
  | ok x =>
    rw [hrest] at h
    cases h
    exact ⟨x.1, rfl, rfl⟩

/-- Only lengths and starts past 32 bits are refused. -/
theorem exists_place_iff (offset : Nat) (l : List Dataset) :
    (∃ x, place offset l = .ok x) ↔
      (∀ d ∈ l, d.payload.size < 2 ^ 32) ∧
        ∀ s ∈ starts offset (l.map fun d => d.payload.size), s < 2 ^ 32 := by
  induction l generalizing offset with
  | nil => simp [place, starts]
  | cons d r ih =>
    -- A last dataset is not padded, but then no start depends on its padding.
    have hnext : (∃ x, place (offset + d.payload.size + (placed offset d r).padding) r = .ok x) ↔
        ∃ x, place (offset + d.payload.size + padding (offset + d.payload.size)) r = .ok x := by
      cases r with
      | nil => simp [place]
      | cons e r => rfl
    simp only [List.map_cons, starts, List.forall_mem_cons]
    constructor
    · rintro ⟨⟨ps, stop⟩, hx⟩
      obtain ⟨hsize, hoffset⟩ := bounds_of_place_cons hx
      obtain ⟨_, qs, _, hrest⟩ := place_cons_eq_ok hx
      obtain ⟨hsizes, hstarts⟩ := (ih _).mp (hnext.mp ⟨_, hrest⟩)
      exact ⟨⟨hsize, hsizes⟩, hoffset, hstarts⟩
    · rintro ⟨⟨hsize, hsizes⟩, hoffset, hstarts⟩
      obtain ⟨x, hx⟩ := hnext.mpr ((ih _).mpr ⟨hsizes, hstarts⟩)
      exact ⟨_, by rw [place_cons hsize hoffset, hx]; rfl⟩

/-- Datasets that were placed tile the file. -/
theorem tiles_of_place {offset stop : Nat} {l : List Dataset} {ps : List Placement}
    (h : place offset l = .ok (ps, stop)) : Tiles offset l ps stop := by
  induction l generalizing offset ps with
  | nil =>
    rw [place] at h
    cases h
    exact Tiles.nil _
  | cons d r ih =>
    obtain ⟨hholds, qs, rfl, hrest⟩ := place_cons_eq_ok h
    rw [← hholds.stop_eq] at hrest
    cases r with
    | nil =>
      rw [place] at hrest
      cases hrest
      exact Tiles.last hholds rfl
    | cons e r =>
      refine Tiles.cons hholds ?_ (ih hrest)
      rw [hholds.stop_eq]
      rfl

namespace Tiles

variable {offset stop : Nat} {l : List Dataset} {ps : List Placement}

theorem forall_holds (h : Tiles offset l ps stop) :
    List.Forall₂ (fun p d => p.Holds p.start d) ps l := by
  induction h with
  | nil offset => exact List.Forall₂.nil
  | last hholds hpad =>
    have hstart := hholds.start_eq
    exact List.Forall₂.cons (hstart ▸ hholds) List.Forall₂.nil
  | cons hholds hpad htail ih =>
    have hstart := hholds.start_eq
    exact List.Forall₂.cons (hstart ▸ hholds) ih

theorem length_eq (h : Tiles offset l ps stop) : ps.length = l.length :=
  h.forall_holds.length_eq

theorem ne_nil {d : Dataset} (h : Tiles offset (d :: l) ps stop) : ps ≠ [] := by
  cases h <;> exact List.cons_ne_nil _ _

theorem map_kind (h : Tiles offset l ps stop) :
    ps.map (fun p => p.descriptor.kind) = l.map Dataset.kind := by
  induction h with
  | nil offset => rfl
  | last hholds hpad => simp only [List.map_cons, List.map_nil, hholds.kind_eq]
  | cons hholds hpad htail ih =>
    rw [List.map_cons, ih, hholds.kind_eq]
    rfl

theorem start_of_head (h : Tiles offset l ps stop) : ∀ p ∈ ps.head?, p.start = offset := by
  cases h with
  | nil => simp
  | last hholds hpad => simpa using hholds.start_eq
  | cons hholds hpad htail => simpa using hholds.start_eq

theorem offset_le_start (h : Tiles offset l ps stop) : ∀ p ∈ ps, offset ≤ p.start := by
  induction h with
  | nil offset => simp
  | last hholds hpad => simpa using hholds.start_eq.ge
  | cons hholds hpad htail ih =>
    rw [List.forall_mem_cons]
    refine ⟨hholds.start_eq.ge, ?_⟩
    intro q hq
    have hnext := ih q hq
    have hstop := hholds.stop_eq
    omega

theorem offset_le_stop (h : Tiles offset l ps stop) : offset ≤ stop := by
  induction h with
  | nil offset => exact Nat.le_refl offset
  | last hholds hpad => exact hholds.stop_eq ▸ Nat.le_add_right _ _
  | cons hholds hpad htail ih =>
    have hstop := hholds.stop_eq
    omega

theorem stop_le_stop (h : Tiles offset l ps stop) : ∀ p ∈ ps, p.stop ≤ stop := by
  induction h with
  | nil offset => simp
  | last hholds hpad => simp
  | cons hholds hpad htail ih =>
    rw [List.forall_mem_cons]
    have hrest := htail.offset_le_stop
    exact ⟨by omega, ih⟩

/-- Each payload starts at the next multiple of 512 behind the one before. -/
theorem isChain (h : Tiles offset l ps stop) :
    ps.IsChain fun p q => q.start = p.stop + p.padding := by
  induction h with
  | nil offset => exact List.IsChain.nil
  | last hholds hpad => exact List.IsChain.singleton _
  | cons hholds hpad htail ih =>
    rw [List.isChain_cons]
    exact ⟨htail.start_of_head, ih⟩

theorem pairwise (h : Tiles offset l ps stop) :
    ps.Pairwise fun p q => p.stop ≤ q.start := by
  induction h with
  | nil offset => exact List.Pairwise.nil
  | last hholds hpad => exact List.pairwise_singleton _ _
  | cons hholds hpad htail ih =>
    rw [List.pairwise_cons]
    refine ⟨?_, ih⟩
    intro q hq
    have hnext := htail.offset_le_start q hq
    omega

theorem dvd_start (h : Tiles offset l ps stop) (hoffset : 512 ∣ offset) :
    ∀ p ∈ ps, 512 ∣ p.start := by
  induction h with
  | nil offset => simp
  | last hholds hpad => simpa using hholds.start_eq ▸ hoffset
  | cons hholds hpad htail ih =>
    rw [List.forall_mem_cons]
    refine ⟨hholds.start_eq ▸ hoffset, ih ?_⟩
    rw [hpad]
    exact dvd_add_padding _

theorem padding_of_mem_dropLast (h : Tiles offset l ps stop) :
    ∀ p ∈ ps.dropLast, p.padding = padding p.stop := by
  induction h with
  | nil offset => simp
  | last hholds hpad => simp
  | cons hholds hpad htail ih =>
    rw [List.dropLast_cons_of_ne_nil htail.ne_nil, List.forall_mem_cons]
    exact ⟨hpad, ih⟩

theorem padding_of_last (h : Tiles offset l ps stop) : ∀ p ∈ ps.getLast?, p.padding = 0 := by
  induction h with
  | nil offset => simp
  | last hholds hpad => simpa using hpad
  | cons hholds hpad htail ih => rwa [List.getLast?_cons_of_ne_nil htail.ne_nil]

theorem stop_eq (h : Tiles offset l ps stop) :
    stop = offset + (ps.map fun p => p.descriptor.length.toNat + p.padding).sum := by
  induction h with
  | nil offset => simp
  | last hholds hpad =>
    simp only [List.map_cons, List.map_nil, List.sum_cons, List.sum_nil, hholds.stop_eq, hpad,
      hholds.length_eq]
    omega
  | cons hholds hpad htail ih =>
    rw [ih, List.map_cons, List.sum_cons, hholds.stop_eq, hholds.length_eq]
    omega

end Tiles

end Layout
end DriveHealth.Farm
