import DriveHealth.Farm.Dataset
import Mathlib.Data.Finset.Card
import Mathlib.Data.Fintype.Basic

/-!
The bits of dataset kinds in one word. A bit of the bitmap is set exactly when its kind is in the
list, and kinds have different bits, so counting set bits counts the kinds.
-/
namespace DriveHealth.Farm.Kind

theorem bit_lt (k : Kind) : k.bit < 7 := by
  cases k <;> decide

theorem bit_injective : Function.Injective bit := by
  intro a b h
  cases a <;> cases b <;> first | rfl | exact absurd h (by decide)

/-- The positions of the set bits of a word. -/
def setBits (w : UInt32) : Finset Nat := (Finset.range 32).filter fun b => w.toNat.testBit b

theorem testBit_singleBit (k : Kind) (b : Nat) :
    (UInt32.ofNat (2 ^ k.bit)).toNat.testBit b = decide (k.bit = b) := by
  have hlt : 2 ^ k.bit < 2 ^ 32 :=
    Nat.pow_lt_pow_right (by decide) (Nat.lt_trans k.bit_lt (by decide))
  rw [UInt32.toNat_ofNat_of_lt' hlt, Nat.testBit_two_pow]

theorem testBit_foldl (kinds : List Kind) (w : UInt32) (b : Nat) :
    (kinds.foldl (fun m k => m ||| UInt32.ofNat (2 ^ k.bit)) w).toNat.testBit b =
      (w.toNat.testBit b || kinds.any fun k => k.bit = b) := by
  induction kinds generalizing w with
  | nil => simp
  | cons k r ih =>
    rw [List.foldl_cons, ih, UInt32.toNat_or, Nat.testBit_or, testBit_singleBit, List.any_cons,
      Bool.or_assoc]

theorem testBit_bitmap (kinds : List Kind) (b : Nat) :
    (bitmap kinds).toNat.testBit b = true ↔ ∃ k ∈ kinds, k.bit = b := by
  rw [bitmap, testBit_foldl]
  simp

theorem setBits_bitmap (kinds : List Kind) :
    setBits (bitmap kinds) = (kinds.map bit).toFinset := by
  ext b
  simp only [setBits, Finset.mem_filter, Finset.mem_range, testBit_bitmap, List.mem_toFinset,
    List.mem_map]
  constructor
  · rintro ⟨_, h⟩
    exact h
  · rintro ⟨k, hk, rfl⟩
    exact ⟨Nat.lt_trans k.bit_lt (by decide), k, hk, rfl⟩

/-- A kind that repeats sets no further bit. -/
theorem card_setBits (kinds : List Kind) :
    (setBits (bitmap kinds)).card = kinds.toFinset.card := by
  have himage : (kinds.map bit).toFinset = kinds.toFinset.image bit := by
    ext b
    simp
  rw [setBits_bitmap, himage, Finset.card_image_of_injective _ bit_injective]

/-- As many bits are set as there are kinds exactly when no kind repeats. -/
theorem card_setBits_bitmap (kinds : List Kind) :
    (setBits (bitmap kinds)).card = kinds.length ↔ kinds.Nodup := by
  have hlength : (kinds.map bit).length = kinds.length := List.length_map bit
  rw [setBits_bitmap, ← List.nodup_map_iff bit_injective, ← hlength, List.card_toFinset]
  constructor
  · intro h
    exact List.dedup_eq_self.mp ((List.dedup_sublist _).eq_of_length h)
  · intro h
    rw [h.dedup]

end DriveHealth.Farm.Kind
