import DriveHealth.ErrorLog.Record
import DriveHealth.Proofs.Bytes.Places

/-!
What the records of an error log tell of their bytes. Each field is read from places of its own,
and the places of all fields together make up the record, so two records are decoded alike exactly
when their bytes agree: all of them but the reserved byte of an extended command, and of the state
of an error only the low half.
-/
namespace DriveHealth.ErrorLog

/-- The width of an address in a record. -/
def lbaBits (extended : Bool) : Nat := if extended then 48 else 24

namespace CommandRecord

/-- No field is read from this byte. -/
def isReserved (extended : Bool) (i : Nat) : Bool := extended && i == 13

/-- Where the fields are read from, in their order. -/
def places (extended : Bool) : List Nat :=
  if extended then
    [0] ++ List.range' 1 2 ++ List.range' 3 2 ++ [5, 7, 9, 6, 8, 10] ++ [11] ++ [12] ++
      List.range' 14 4
  else [0] ++ [1] ++ [2] ++ [3, 4, 5] ++ [6] ++ [7] ++ List.range' 8 4

theorem perm_places (extended : Bool) : (places extended).Perm
    ((List.range (length extended)).filter fun i => !isReserved extended i) := by
  cases extended <;> decide

theorem ofBytes_eq_iff_agreeAt (extended : Bool) (a b : Bytes) :
    ofBytes extended a = ofBytes extended b ↔ Bytes.AgreeAt (places extended) a b := by
  cases extended with
  | false =>
    simp only [ofBytes, Bool.false_eq_true, if_false, mk.injEq, UInt8.toUInt16_inj,
      Bytes.leValue_eq_iff, Bytes.le32_eq_iff, places, Bytes.agreeAt_append,
      Bytes.agreeAt_singleton, and_assoc]
  | true =>
    simp only [ofBytes, if_true, mk.injEq, Bytes.le16_eq_iff, Bytes.leValue_eq_iff,
      Bytes.le32_eq_iff, places, Bytes.agreeAt_append, Bytes.agreeAt_singleton, and_assoc]

theorem ofBytes_eq_iff (extended : Bool) (a b : Bytes) :
    ofBytes extended a = ofBytes extended b ↔
      ∀ i < length extended, isReserved extended i = false → a.byteAt i = b.byteAt i := by
  rw [ofBytes_eq_iff_agreeAt, Bytes.agreeAt_congr (perm_places extended)]
  simp only [Bytes.AgreeAt, List.mem_filter, List.mem_range, Bool.not_eq_true', and_imp]

theorem lba_lt (extended : Bool) (b : Bytes) : (ofBytes extended b).lba < 2 ^ lbaBits extended := by
  cases extended with
  | false => exact Bytes.leValue_lt_two_pow ([3, 4, 5].map b.byteAt)
  | true => exact Bytes.leValue_lt_two_pow ([5, 7, 9, 6, 8, 10].map b.byteAt)

end CommandRecord

namespace ErrorRecord

def length (extended : Bool) : Nat := if extended then 34 else 30

/-- The byte whose low half is the state. -/
def statePlace (extended : Bool) : Nat := if extended then 31 else 27

/-- Where the fields but the state are read from, in their order. -/
def places (extended : Bool) : List Nat :=
  if extended then
    [0] ++ [1] ++ List.range' 2 2 ++ [4, 6, 8, 5, 7, 9] ++ [10] ++ [11] ++ List.range' 12 19 ++
      List.range' 32 2
  else
    [0] ++ [1] ++ [2] ++ [3, 4, 5] ++ [6] ++ [7] ++ List.range' 8 19 ++ List.range' 28 2

theorem perm_places (extended : Bool) : (places extended).Perm
    ((List.range (length extended)).filter fun i => i != statePlace extended) := by
  cases extended <;> decide

theorem vendorBytes_eq_iff (a b : Bytes) (off : Nat) :
    vendorBytes a off = vendorBytes b off ↔ Bytes.AgreeAt (List.range' off 19) a b := by
  unfold vendorBytes Bytes.AgreeAt
  constructor
  · intro h i hi
    obtain ⟨k, hk, rfl⟩ := List.mem_range'.mp hi
    have hbyte := congrArg (fun v => v[k]) h
    simpa only [Vector.getElem_ofFn, Nat.one_mul] using hbyte
  · intro h
    refine Vector.ext fun k hk => ?_
    rw [Vector.getElem_ofFn, Vector.getElem_ofFn]
    exact h (off + k) (List.mem_range'.mpr ⟨k, hk, by rw [Nat.one_mul]⟩)

theorem ofBytes_eq_iff_agreeAt (extended : Bool) (a b : Bytes) :
    ofBytes extended a = ofBytes extended b ↔ Bytes.AgreeAt (places extended) a b ∧
      a.byteAt (statePlace extended) % 16 = b.byteAt (statePlace extended) % 16 := by
  -- The hours stand behind the state in the record, and the state apart from all places here.
  cases extended with
  | false =>
    simp only [ofBytes, Bool.false_eq_true, if_false, mk.injEq, UInt8.toUInt16_inj,
      Bytes.leValue_eq_iff, vendorBytes_eq_iff, Bytes.le16_eq_iff, places, Bytes.agreeAt_append,
      Bytes.agreeAt_singleton, statePlace, and_assoc,
      and_comm (a := a.byteAt 27 % 16 = b.byteAt 27 % 16)]
  | true =>
    simp only [ofBytes, if_true, mk.injEq, Bytes.le16_eq_iff, Bytes.leValue_eq_iff,
      vendorBytes_eq_iff, places, Bytes.agreeAt_append, Bytes.agreeAt_singleton, statePlace,
      and_assoc, and_comm (a := a.byteAt 31 % 16 = b.byteAt 31 % 16)]

theorem ofBytes_eq_iff (extended : Bool) (a b : Bytes) :
    ofBytes extended a = ofBytes extended b ↔
      (∀ i < length extended, i ≠ statePlace extended → a.byteAt i = b.byteAt i) ∧
      a.byteAt (statePlace extended) % 16 = b.byteAt (statePlace extended) % 16 := by
  rw [ofBytes_eq_iff_agreeAt, Bytes.agreeAt_congr (perm_places extended)]
  simp only [Bytes.AgreeAt, List.mem_filter, List.mem_range, bne_iff_ne, and_imp]

theorem lba_lt (extended : Bool) (b : Bytes) : (ofBytes extended b).lba < 2 ^ lbaBits extended := by
  cases extended with
  | false => exact Bytes.leValue_lt_two_pow ([3, 4, 5].map b.byteAt)
  | true => exact Bytes.leValue_lt_two_pow ([4, 6, 8, 5, 7, 9].map b.byteAt)

end ErrorRecord

/-- Records of one form are decoded alike exactly if their bytes agree, but for the reserved byte
of a command and the upper half of the state byte; and an address fits its registers. -/
theorem records_lossless (extended : Bool) (a b : Bytes) :
    (CommandRecord.ofBytes extended a = CommandRecord.ofBytes extended b ↔
      ∀ i < CommandRecord.length extended, CommandRecord.isReserved extended i = false →
        a.byteAt i = b.byteAt i) ∧
    (ErrorRecord.ofBytes extended a = ErrorRecord.ofBytes extended b ↔
      (∀ i < ErrorRecord.length extended, i ≠ ErrorRecord.statePlace extended →
        a.byteAt i = b.byteAt i) ∧
      a.byteAt (ErrorRecord.statePlace extended) % 16 =
        b.byteAt (ErrorRecord.statePlace extended) % 16) ∧
    (CommandRecord.ofBytes extended a).lba < 2 ^ lbaBits extended ∧
    (ErrorRecord.ofBytes extended a).lba < 2 ^ lbaBits extended :=
  ⟨CommandRecord.ofBytes_eq_iff extended a b, ErrorRecord.ofBytes_eq_iff extended a b,
    CommandRecord.lba_lt extended a, ErrorRecord.lba_lt extended a⟩

end DriveHealth.ErrorLog
