import DriveHealth.Proofs.Capture.Alignment
import DriveHealth.Proofs.Farm.Gathered
import Mathlib.Order.Bounds.Basic

/-!
The transfers of a pull on a captured drive. A buffer is the smallest multiple of the alignment that
holds the bytes, so the drive refuses no transfer for its length. The drive remembers what it is
asked and changes in no other way, so each read finds the pages as they were captured. What a pull
answers is then told by the kinds that are there, their order, and the payload of each.
-/
namespace DriveHealth

namespace Capture.Device

open Transport Program

/-- The drive after it was asked, the first request first. -/
def rememberAll (d : Device) (l : List Asked) : Device := { d with asked := l.reverse ++ d.asked }

theorem rememberAll_append (d : Device) (l m : List Asked) :
    (d.rememberAll l).rememberAll m = d.rememberAll (l ++ m) := by
  unfold rememberAll
  simp

theorem drive_rememberAll (d : Device) (l : List Asked) : (d.rememberAll l).drive = d.drive := rfl

theorem dmaAlignment_pos (d : Device) : 0 < d.drive.dmaAlignment := by
  show 0 < if d.manifest.restrictions.alignment = 0 then 512 else d.manifest.restrictions.alignment
  split
  · exact Nat.zero_lt_succ 511
  · rename_i hgiven
    exact Nat.pos_of_ne_zero hgiven

/-- The drive takes every multiple of the alignment that it reports. -/
theorem misaligned_of_dvd {d : Device} {length : Nat} (h : d.drive.dmaAlignment ∣ length) :
    d.misaligned length = false := by
  apply misaligned_eq_false_iff.mpr
  by_cases hnone : d.manifest.restrictions.alignment = 0
  · exact .inl hnone
  · have hreported : d.drive.dmaAlignment = d.manifest.restrictions.alignment := if_neg hnone
    rw [hreported] at h
    exact .inr h

end Capture.Device

namespace Farm.Pull

open Capture Program

theorem bufferSize_isLeast {alignment : Nat} (h : 0 < alignment) (length : Nat) :
    IsLeast {n | alignment ∣ n ∧ length ≤ n} (bufferSize length alignment) := by
  have hunit : max alignment 1 = alignment := by omega
  have hsize : bufferSize length alignment = (length + alignment - 1) / alignment * alignment := by
    unfold bufferSize
    dsimp only
    rw [hunit]
  rw [hsize]
  refine ⟨⟨Nat.dvd_mul_left _ _, ?_⟩, ?_⟩
  · have hdivision := Nat.div_add_mod (length + alignment - 1) alignment
    have hrest := Nat.mod_lt (length + alignment - 1) h
    rw [Nat.mul_comm] at hdivision
    omega
  · rintro n ⟨⟨m, rfl⟩, hn⟩
    rw [Nat.mul_comm alignment m] at hn ⊢
    have hquotient : (length + alignment - 1) / alignment ≤ m :=
      (Nat.div_le_iff_le_mul h).mpr (by omega)
    exact Nat.mul_le_mul_right alignment hquotient

theorem length_le_bufferSize (length alignment : Nat) : length ≤ bufferSize length alignment := by
  have hunit : bufferSize length alignment = bufferSize length (max alignment 1) := by
    unfold bufferSize
    dsimp only
    rw [Nat.max_eq_left (Nat.le_max_right alignment 1)]
  rw [hunit]
  exact (bufferSize_isLeast (Nat.lt_of_lt_of_le Nat.zero_lt_one (Nat.le_max_right _ _)) length).1.2

theorem le_bufferSize (d : Device) (length : Nat) :
    length ≤ bufferSize length d.drive.dmaAlignment :=
  length_le_bufferSize length d.drive.dmaAlignment

theorem misaligned_bufferSize (d : Device) (length : Nat) :
    d.misaligned (bufferSize length d.drive.dmaAlignment) = false :=
  Device.misaligned_of_dvd (bufferSize_isLeast d.dmaAlignment_pos length).1.1

/-- The clock of a capture stands still, so a timed request starts and ends at zero. -/
theorem run_timed (d : Device) (ask : Session (Except TransportError Bytes)) :
    d.run (timed ask) =
      ((d.run ask).1.toOption.map fun data => ⟨data, 0, 0⟩, (d.run ask).2) := by
  have hclock : d.run Session.clock = ((0 : Nat), d) := rfl
  unfold timed
  rw [Device.run_bind, hclock]
  dsimp only
  rw [Device.run_bind]
  cases (d.run ask).1 with
  | error e => rfl
  | ok data => rfl

/-- The datasets are those of the kinds that have a payload, each once, in the order of a list. -/
structure Exactly (order : List Kind) (payload? : Kind → Option Bytes) (l : List Dataset) :
    Prop where
  in_order : (l.map Dataset.kind).Sublist order
  distinct : (l.map Dataset.kind).Nodup
  payload : ∀ k b, (∃ e ∈ l, e.kind = k ∧ e.payload = b) ↔ payload? k = some b

theorem exactly_of_contents {order : List Kind} {offers : Kind → Bool}
    {stored? : Kind → Option Bytes} {l : List Dataset} (hdistinct : order.Nodup)
    (hkinds : ∀ k, offers k = true → k ∈ order)
    (hl : l.map (fun e => (e.kind, e.payload)) =
      (order.filter offers).filterMap fun k => (stored? k).map fun b => (k, b)) :
    Exactly order (fun k => if offers k then stored? k else none) l := by
  have hsublist : (l.map Dataset.kind).Sublist order := by
    have hfirst : l.map Dataset.kind =
        (l.map fun e => (e.kind, e.payload)).map Prod.fst := by
      rw [List.map_map]
      rfl
    have hnames : (fun k => ((stored? k).map fun b => (k, b)).map Prod.fst) =
        Option.guard fun k => (stored? k).isSome := by
      funext k
      cases hb : stored? k <;> simp [Option.guard, hb]
    rw [hfirst, hl, List.map_filterMap, hnames, List.filterMap_eq_filter]
    exact List.filter_sublist.trans List.filter_sublist
  refine ⟨hsublist, hdistinct.sublist hsublist, fun k b => ?_⟩
  have hmember : (∃ e ∈ l, e.kind = k ∧ e.payload = b) ↔
      (k, b) ∈ l.map fun e => (e.kind, e.payload) := by
    simp
  rw [hmember, hl, List.mem_filterMap]
  constructor
  · rintro ⟨j, hj, hentry⟩
    obtain ⟨c, hc, heq⟩ := Option.map_eq_some_iff.mp hentry
    cases heq
    rw [if_pos (List.mem_filter.mp hj).2]
    exact hc
  · intro hb
    by_cases hk : offers k = true
    · rw [if_pos hk] at hb
      exact ⟨k, List.mem_filter.mpr ⟨hkinds k hk, hk⟩, by rw [hb, Option.map_some]⟩
    · rw [if_neg hk] at hb
      cases hb

end Farm.Pull
end DriveHealth
