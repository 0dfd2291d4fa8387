import DriveHealth.ErrorLog.Report
import DriveHealth.Proofs.Bytes.Places
import DriveHealth.Proofs.Bytes.Splice
import Mathlib.Data.List.ReduceOption

/-!
Entries of a 28-bit log in the extended form. Each register is copied to its place among the wider
records, and the bytes that only the extended form has, the previous contents of the registers and
the reserved byte, are zero. The wider entry is decoded to the same commands and the same error.
-/
namespace DriveHealth.ErrorLog

/-- Every byte of the wide record is the one that is drawn from the narrow record for it. -/
def Drawn (origins : List (Option Nat)) (wide narrow : Bytes) : Prop :=
  ∀ j < origins.length, wide.byteAt j = narrow.drawnAt (origins.getD j none)

namespace Drawn

variable {origins : List (Option Nat)} {wide narrow : Bytes}

/-- A register whose previous contents are zero. -/
theorem le16_eq (h : Drawn origins wide narrow) {i j : Nat} (hi : i + 1 < origins.length)
    (hlow : origins.getD i none = some j) (hhigh : origins.getD (i + 1) none = none) :
    wide.le16 i = (narrow.byteAt j).toUInt16 := by
  have hzero : wide.byteAt (i + 1) = 0 := by
    rw [h (i + 1) hi, hhigh, Bytes.drawnAt_none]
  rw [Bytes.le16_of_high_zero hzero, h i (by omega), hlow, Bytes.drawnAt_some]

/-- A number whose high digits are previous contents is that of its low digits. -/
theorem leValue_eq (h : Drawn origins wide narrow) {l m : List Nat} {n : Nat}
    (hl : ∀ j ∈ l, j < origins.length)
    (horigin : l.map (fun j => origins.getD j none) = m.map some ++ List.replicate n none) :
    Bytes.leValue (l.map wide.byteAt) = Bytes.leValue (m.map narrow.byteAt) := by
  have hbytes : l.map wide.byteAt = m.map narrow.byteAt ++ List.replicate n 0 := by
    calc l.map wide.byteAt
        = (l.map fun j => origins.getD j none).map narrow.drawnAt := by
          rw [List.map_map]
          exact List.map_congr_left fun j hj => h j (hl j hj)
      _ = m.map narrow.byteAt ++ List.replicate n 0 := by
          rw [horigin, List.map_append, List.map_map, List.map_replicate]
          rfl
  rw [hbytes, Bytes.leValue_append_zeros]

/-- Bytes in a row that are copied from bytes in a row. -/
theorem byteAt_eq (h : Drawn origins wide narrow) {i j w : Nat} (hi : i + w ≤ origins.length)
    (hrow : ∀ k < w, origins.getD (i + k) none = some (j + k)) :
    ∀ k < w, wide.byteAt (i + k) = narrow.byteAt (j + k) := by
  intro k hk
  rw [h (i + k) (by omega), hrow k hk, Bytes.drawnAt_some]

end Drawn

namespace CommandRecord

/-- For each byte of an extended record, the byte of a 28-bit record that holds the same register;
there is none for the previous contents of a register and for the reserved byte. -/
def origins : List (Option Nat) :=
  [some 0, some 1, none, some 2, none, some 3, none, some 4, none, some 5, none, some 6, some 7,
    none, some 8, some 9, some 10, some 11]

theorem ofBytes_drawn {wide narrow : Bytes} (h : Drawn origins wide narrow) :
    ofBytes true wide = ofBytes false narrow := by
  have hcontrol : wide.byteAt 0 = narrow.byteAt 0 := h 0 (by decide)
  have hfeatures : wide.le16 1 = (narrow.byteAt 1).toUInt16 := h.le16_eq (by decide) rfl rfl
  have hcount : wide.le16 3 = (narrow.byteAt 2).toUInt16 := h.le16_eq (by decide) rfl rfl
  have hlba : Bytes.leValue ([5, 7, 9, 6, 8, 10].map wide.byteAt) =
      Bytes.leValue ([3, 4, 5].map narrow.byteAt) := h.leValue_eq (n := 3) (by decide) rfl
  have hdevice : wide.byteAt 11 = narrow.byteAt 6 := h 11 (by decide)
  have hcommand : wide.byteAt 12 = narrow.byteAt 7 := h 12 (by decide)
  have htime : wide.le32 14 = narrow.le32 8 :=
    congrArg UInt32.ofNat (Bytes.leNat_congr (h.byteAt_eq (by decide) (by decide)))
  simp only [ofBytes, if_true, Bool.false_eq_true, if_false, hcontrol, hfeatures, hcount, hlba,
    hdevice, hcommand, htime]

end CommandRecord

namespace ErrorRecord

/-- The same for the record of an error, which has no reserved byte. -/
def origins : List (Option Nat) :=
  [some 0, some 1, some 2, none, some 3, none, some 4, none, some 5, none, some 6, some 7] ++
    (List.range' 8 22).map some

theorem ofBytes_drawn {wide narrow : Bytes} (h : Drawn origins wide narrow) :
    ofBytes true wide = ofBytes false narrow := by
  have htransport : wide.byteAt 0 = narrow.byteAt 0 := h 0 (by decide)
  have herror : wide.byteAt 1 = narrow.byteAt 1 := h 1 (by decide)
  have hcount : wide.le16 2 = (narrow.byteAt 2).toUInt16 := h.le16_eq (by decide) rfl rfl
  have hlba : Bytes.leValue ([4, 6, 8, 5, 7, 9].map wide.byteAt) =
      Bytes.leValue ([3, 4, 5].map narrow.byteAt) := h.leValue_eq (n := 3) (by decide) rfl
  have hdevice : wide.byteAt 10 = narrow.byteAt 6 := h 10 (by decide)
  have hstatus : wide.byteAt 11 = narrow.byteAt 7 := h 11 (by decide)
  have hvendor : vendorBytes wide 12 = vendorBytes narrow 8 := by
    have hrow : ∀ k < 19, wide.byteAt (12 + k) = narrow.byteAt (8 + k) :=
      h.byteAt_eq (by decide) (by decide)
    exact congrArg Vector.ofFn (funext fun i => hrow i i.isLt)
  have hstate : wide.byteAt 31 = narrow.byteAt 27 := h 31 (by decide)
  have hhours : wide.le16 32 = narrow.le16 28 :=
    congrArg UInt16.ofNat (Bytes.leNat_congr (h.byteAt_eq (by decide) (by decide)))
  simp only [ofBytes, if_true, Bool.false_eq_true, if_false, htransport, herror, hcount, hlba,
    hdevice, hstatus, hvendor, hstate, hhours]

end ErrorRecord

namespace Entry

/-- The commands one behind the other, and the error behind them. -/
def origins : List (Option Nat) :=
  ((List.range commandCount).flatMap fun i =>
      CommandRecord.origins.map (Option.map (i * CommandRecord.length false + ·))) ++
    ErrorRecord.origins.map (Option.map (commandCount * CommandRecord.length false + ·))

/-- An entry of a 28-bit log in the extended form. -/
def widened (slot : Bytes) : Bytes := slot.draw origins

/-- All bytes of the entry are copied, in their order. -/
theorem reduceOption_origins : origins.reduceOption = List.range (length false) := by decide

theorem size_widened (slot : Bytes) : (widened slot).size = length true :=
  Bytes.size_draw slot origins

theorem getD_origins_command : ∀ i < commandCount, ∀ j < CommandRecord.length true,
    origins.getD (i * CommandRecord.length true + j) none =
      (CommandRecord.origins.getD j none).map (i * CommandRecord.length false + ·) := by
  decide

theorem getD_origins_error : ∀ j < ErrorRecord.origins.length,
    origins.getD (commandCount * CommandRecord.length true + j) none =
      (ErrorRecord.origins.getD j none).map (commandCount * CommandRecord.length false + ·) := by
  decide

theorem drawn_command (slot : Bytes) {i : Nat} (hi : i < commandCount) :
    Drawn CommandRecord.origins
      ((widened slot).slice (i * CommandRecord.length true) (CommandRecord.length true))
      (slot.slice (i * CommandRecord.length false) (CommandRecord.length false)) := by
  intro j hj
  have hlt : j < CommandRecord.length true := hj
  have hinside : ∀ k ∈ CommandRecord.origins.getD j none, k < CommandRecord.length false := by
    revert j
    decide
  rw [Bytes.byteAt_slice _ hlt, widened, Bytes.byteAt_draw, getD_origins_command i hi j hj]
  cases horigin : CommandRecord.origins.getD j none with
  | none => rw [Option.map_none, Bytes.drawnAt_none, Bytes.drawnAt_none]
  | some k => exact (Bytes.byteAt_slice slot (hinside k horigin)).symm

theorem drawn_error {slot : Bytes} (h : slot.size = length false) :
    Drawn ErrorRecord.origins
      ((widened slot).extract (commandCount * CommandRecord.length true) (widened slot).size)
      (slot.extract (commandCount * CommandRecord.length false) slot.size) := by
  intro j hj
  have hinside : ∀ k ∈ ErrorRecord.origins.getD j none,
      commandCount * CommandRecord.length false + k < length false := by
    revert j
    decide
  have hwide : commandCount * CommandRecord.length true + j < (widened slot).size := by
    rw [size_widened]
    revert j
    decide
  rw [Bytes.byteAt_extract _ hwide, widened, Bytes.byteAt_draw, getD_origins_error j hj]
  cases horigin : ErrorRecord.origins.getD j none with
  | none => rw [Option.map_none, Bytes.drawnAt_none, Bytes.drawnAt_none]
  | some k =>
    have hnarrow := hinside k horigin
    rw [← h] at hnarrow
    exact (Bytes.byteAt_extract slot hnarrow).symm

theorem isZero_widened {slot : Bytes} (h : slot.size = length false) :
    (widened slot).isZero = slot.isZero := by
  rw [Bool.eq_iff_iff, widened, Bytes.isZero_draw_iff, Bytes.isZero_iff]
  have hmem : ∀ i, some i ∈ origins ↔ i < slot.size := by
    intro i
    rw [← List.reduceOption_mem_iff, reduceOption_origins, List.mem_range, h]
  constructor
  · intro hzero i
    by_cases hi : i < slot.size
    · exact hzero i ((hmem i).mpr hi)
    · exact Bytes.byteAt_of_le (Nat.not_lt.mp hi)
  · intro hzero i _
    exact hzero i

theorem ofBytes_widened {slot : Bytes} (h : slot.size = length false) :
    ofBytes true (widened slot) = ofBytes false slot := by
  have hcommands : (List.range commandCount).map (fun i => CommandRecord.ofBytes true
      ((widened slot).slice (i * CommandRecord.length true) (CommandRecord.length true))) =
      (List.range commandCount).map fun i => CommandRecord.ofBytes false
        (slot.slice (i * CommandRecord.length false) (CommandRecord.length false)) :=
    List.map_congr_left fun i hi =>
      CommandRecord.ofBytes_drawn (drawn_command slot (List.mem_range.mp hi))
  have herror := ErrorRecord.ofBytes_drawn (drawn_error h)
  unfold ofBytes
  dsimp only
  rw [hcommands, herror]

/-- What is told of an entry: its commands and its error. -/
def texts (e : Entry) : List String × String := (e.commands.map CommandRecord.text, e.errorText)

/-- An entry of a 28-bit log and its extended form are decoded alike. -/
theorem widened_alike {slot : Bytes} (h : slot.size = length false) :
    (widened slot).size = length true ∧ ofBytes? true (widened slot) = ofBytes? false slot ∧
      (ofBytes? true (widened slot)).map texts = (ofBytes? false slot).map texts := by
  have halike : ofBytes? true (widened slot) = ofBytes? false slot := by
    rw [ofBytes?, isZero_widened h, ofBytes_widened h, ofBytes?]
  exact ⟨size_widened slot, halike, congrArg (Option.map texts) halike⟩

/-- An entry with a reset, a read and the error that the read met. -/
def readSlot : Bytes :=
  .ofList (List.replicate 36 0 ++ 0xFF :: List.replicate 11 0 ++
    [0, 0, 8, 0x34, 0x12, 1, 0xE5, 0xC8, 0x10, 0x27, 0, 0] ++
    [0, 0x40, 8, 0x34, 0x12, 1, 0xE5, 0x51] ++ List.replicate 19 7 ++ [0x53, 42, 0])

theorem widened_alike_readSlot : readSlot.size = length false ∧
    ((ofBytes? false readSlot).map fun e => e.commands.length) = some 2 ∧
    (ofBytes? false readSlot).map Entry.error = some
      { transportSpecific := 0, error := 0x40, count := 8, lba := 0x011234, device := 0xE5
        status := 0x51, vendorUnique := .replicate 19 7, state := 3, lifeHours := 42 } ∧
    (widened readSlot).size = length true ∧
    ofBytes? true (widened readSlot) = ofBytes? false readSlot ∧
    (ofBytes? true (widened readSlot)).map texts = (ofBytes? false readSlot).map texts := by
  have hsize : readSlot.size = length false := by
    rw [readSlot, Bytes.size_ofList]
    decide
  exact ⟨hsize, by decide +kernel, by decide +kernel, widened_alike hsize⟩

end Entry
end DriveHealth.ErrorLog
