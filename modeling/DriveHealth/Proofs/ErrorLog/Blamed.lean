import DriveHealth.Proofs.Ata.Addressed
import DriveHealth.Proofs.Text.Phrase
import Mathlib.Data.Bool.AllAny
import Mathlib.Tactic.FinCases

/-!
The command that an error is blamed on. Some conditions are told for a class of commands only, and
the class goes by the opcode alone. The text of the command itself tells a stream command for what
it is, but one opcode of the recalibrate class stands for another command as soon as its count
register is not zero.
-/
namespace DriveHealth.Ata

open Text

namespace Opcode

/-- The recalibrate class, without the opcode that another command shares. -/
def recalibrations : List Opcode :=
  [0x10, 0x11, 0x13, 0x14, 0x15, 0x16, 0x17, 0x18, 0x19, 0x1A, 0x1B, 0x1C, 0x1D, 0x1E, 0x1F]

theorem isRecalibrate_iff {c : Opcode} : c.isRecalibrate = true ↔ 0x10 ≤ c ∧ c ≤ 0x1F := by
  rw [isRecalibrate, between, Bool.and_eq_true, decide_eq_true_eq, decide_eq_true_eq]

theorem mem_recalibrations {c : Opcode} (h : c.isRecalibrate = true) (hne : c ≠ 0x12) :
    c ∈ recalibrations := by
  have hall : ∀ n < 16, UInt8.ofNat (16 + n) ∈ recalibrations ∨ UInt8.ofNat (16 + n) = 0x12 := by
    decide
  obtain ⟨hlow, hhigh⟩ := isRecalibrate_iff.mp h
  rw [UInt8.le_iff_toNat_le] at hlow hhigh
  have hlow : 16 ≤ c.toNat := hlow
  have hhigh : c.toNat ≤ 31 := hhigh
  have hcode := hall (c.toNat - 16) (by omega)
  rw [Nat.add_sub_cancel' hlow, UInt8.ofNat_toNat] at hcode
  exact hcode.resolve_right hne

end Opcode

namespace Command

def streamNames : List String :=
  ["Read Stream DMA Ext", "Read Stream Ext", "Write Stream DMA Ext", "Write Stream Ext"]

/-- The text is that of a stream command. -/
def NamesStream (text : String) : Prop := ∃ name ∈ streamNames, Begins (name ++ " - ") text

/-- The text is that of the command which shares an opcode with the recalibrations. -/
def NamesElementStatus (text : String) : Prop := Begins "Get Physical Element Status - " text

theorem namesStream_of_isStreaming {r : Registers} (h : r.command.isStreaming = true) :
    NamesStream (text r) := by
  have hall : ∀ c ∈ ([0x2A, 0x2B, 0x3A, 0x3B] : List Opcode),
      ∃ name ∈ streamNames, Opcode.dataName? c = some name :=
    List.all_iff_forall_prop.mp (by decide)
  obtain ⟨name, hmem, hname⟩ := hall r.command (Opcode.isStreaming_iff_mem.mp h)
  have hbegins : Begins (name ++ " - ") (name ++ " - ") := List.prefix_rfl
  refine ⟨name, hmem, ?_⟩
  rw [text_of_dataName hname]
  exact (((hbegins.append _).append _).append _).append _

theorem text_of_isRecalibrate {r : Registers} (h : r.command.isRecalibrate = true)
    (hne : r.command ≠ 0x12) : text r = "Recalibrate" := by
  obtain ⟨c, features, count, lba, device⟩ := r
  have hmem : c ∈ Opcode.recalibrations := Opcode.mem_recalibrations h hne
  unfold Opcode.recalibrations at hmem
  fin_cases hmem <;> rfl

theorem text_of_shared {r : Registers} (h : r.command = 0x12) :
    text r = if r.count = 0 then "Recalibrate" else elementStatus r := by
  obtain ⟨c, features, count, lba, device⟩ := r
  obtain rfl : c = 0x12 := h
  rfl

theorem namesElementStatus (r : Registers) : NamesElementStatus (elementStatus r) := by
  have hbegins : Begins "Get Physical Element Status - "
      "Get Physical Element Status - Starting Element: " := by
    decide
  have htext : elementStatus r = "Get Physical Element Status - Starting Element: " ++
      decimal r.lba ++ " Count: " ++ decimal r.count.toNat ++ " Filter: " ++
      Text.hexCaps 2 (r.features.toNat / 2 ^ 14) ++ "h Report Type: " ++
      Text.hexUpper (r.featuresHigh % 16) ++ "h" := rfl
  rw [htext]
  simp only [String.append_assoc]
  exact hbegins.append _

end Command

namespace Failure

/-- Told of a recalibration only. -/
def trackPhrase : String := "Track 0 Not Found"

/-- Told of stream commands only, as is the next. -/
def deferredPhrase : String := "Deferred Write Error"

def timeoutPhrase : String := "Command Completion Timeout"

/-- Letters that nothing but the name of a condition has in the text of a failure. -/
def marks : List Char := ['k', 'W', 'm']

-- Each mark is tried by itself; as characters they are too many to be gone through.
theorem hexDigit_ne_mark : ∀ m ∈ marks, ∀ d < 16, (Nat.digitChar d).toUpper ≠ m :=
  List.all_iff_forall_prop.mp (by decide)

theorem decimalDigit_ne_mark : ∀ m ∈ marks, ∀ d < 10, Nat.digitChar d ≠ m :=
  List.all_iff_forall_prop.mp (by decide)

section Letters

variable {c : Char} (hc : c ∈ marks)

include hc

theorem letters_conditions (l : List String) (register : UInt8) :
    letters c (conditions l register) = (l.map (letters c)).sum := by
  unfold conditions
  split
  · rename_i hempty
    have hunit : ∀ m ∈ marks, letters m "h" = 0 := List.all_iff_forall_prop.mp (by decide)
    rw [letters_append, letters_hexCaps (hexDigit_ne_mark c hc), hunit c hc,
      List.isEmpty_iff.mp hempty]
    rfl
  · have hcomma : ∀ m ∈ marks, letters m ", " = 0 := List.all_iff_forall_prop.mp (by decide)
    exact letters_intercalate (hcomma c hc) l

theorem letters_address (f : Failure) : letters c f.address = 0 := by
  have hlabels : ∀ m ∈ marks, letters m "LBA: " = 0 ∧ letters m "Cylinder: " = 0 ∧
      letters m " Head: " = 0 ∧ letters m " Sector: " = 0 :=
    List.all_iff_forall_prop.mp (by decide)
  obtain ⟨hlba, hcylinder, hhead, hsector⟩ := hlabels c hc
  have hblock : ∀ lba, letters c (Address.block lba) = 0 := by
    intro lba
    rw [Address.block, letters_append, hlba, letters_decimal (decimalDigit_ne_mark c hc)]
  have hplace : ∀ lba device, letters c (Address.place lba device) = 0 := by
    intro lba device
    have htext : Address.place lba device =
        "Cylinder: " ++ decimal (lba / 256 % 65536) ++ " Head: " ++ decimal (device.toNat % 16) ++
          " Sector: " ++ decimal (lba % 256) := rfl
    simp only [htext, letters_append, letters_decimal (decimalDigit_ne_mark c hc), hcylinder,
      hhead, hsector]
  unfold address
  split_ifs
  · exact hblock _
  · exact hblock _
  · exact hplace _ _

theorem letters_text (f : Failure) : letters c f.text =
    (f.statusConditions.map (letters c)).sum +
      if f.errorValid then (f.errorConditions.map (letters c)).sum else 0 := by
  have hlabels : ∀ m ∈ marks, letters m "Status: " = 0 ∧ letters m ", Error: " = 0 ∧
      letters m "  " = 0 ∧ letters m "  Device: " = 0 ∧ letters m "  Transport Specific: " = 0 ∧
      letters m "" = 0 := List.all_iff_forall_prop.mp (by decide)
  obtain ⟨hstatus, herror, hgap, hdevice, htransport, hnothing⟩ := hlabels c hc
  unfold text
  simp only [letters_append, apply_ite (letters c), letters_conditions hc, letters_address hc,
    letters_hexCaps (hexDigit_ne_mark c hc), hstatus, herror, hgap, hdevice, htransport, hnothing,
    Nat.zero_add, Nat.add_zero, ite_self]

end Letters

/-! The conditions as flags beside their names, and the letters of the names that are told. -/

def statusFlags (f : Failure) : List Bool :=
  [f.statusBit 5, f.statusBit 2, f.command.isStreaming && f.statusBit 4, f.errorValid]

def statusNames : List String :=
  ["Device Fault", "Alignment Error", "Deferred Write Error", "Error Reg Valid"]

def errorFlags (f : Failure) : List Bool :=
  [f.errorBit 7, f.errorBit 6, f.errorBit 4, f.errorBit 2 && !f.errorBit 7,
    f.command.isRecalibrate && f.errorBit 1, f.command.isStreaming && f.errorBit 0]

def errorNames : List String :=
  ["Interface CRC", "Uncorrectable Data", "ID Not Found", "Abort", "Track 0 Not Found",
    "Command Completion Timeout"]

/-- The numbers beside the flags that are set, together. -/
def weigh (flags : List Bool) (l : List Nat) : Nat :=
  (flags.zipWith (fun b n => if b then n else 0) l).sum

theorem sum_letters_present (c : Char) (flags : List Bool) (names : List String) :
    ((present (flags.zip names)).map (letters c)).sum = weigh flags (names.map (letters c)) := by
  induction flags generalizing names with
  | nil => rfl
  | cons b r ih =>
    cases names with
    | nil => rfl
    | cons a rest =>
      have hrest := ih rest
      unfold present weigh at hrest ⊢
      cases b <;> simpa using hrest

theorem letters_weighed {c : Char} (hc : c ∈ marks) {u v : List Nat}
    (hu : statusNames.map (letters c) = u) (hv : errorNames.map (letters c) = v) (f : Failure) :
    letters c f.text =
      weigh f.statusFlags u + if f.errorValid then weigh f.errorFlags v else 0 := by
  have hstatus : f.statusConditions = present (f.statusFlags.zip statusNames) := rfl
  have herror : f.errorConditions = present (f.errorFlags.zip errorNames) := rfl
  rw [letters_text hc, hstatus, herror, sum_letters_present, sum_letters_present, hu, hv]

theorem mem_present {l : List (Bool × String)} {phrase : String} (h : (true, phrase) ∈ l) :
    phrase ∈ present l :=
  List.mem_map.mpr ⟨(true, phrase), List.mem_filter.mpr ⟨h, rfl⟩, rfl⟩

theorem tells_conditions {l : List String} {phrase : String} (h : phrase ∈ l) (register : UInt8) :
    Tells phrase (conditions l register) := by
  have hne : ¬ l.isEmpty = true := by
    rw [List.isEmpty_iff]
    exact List.ne_nil_of_mem h
  rw [conditions, if_neg hne]
  exact tells_intercalate ", " h

theorem tells_of_statusCondition {f : Failure} {phrase : String} (h : phrase ∈ f.statusConditions) :
    Tells phrase f.text :=
  (tells_conditions h f.status).append_right.append_left.append_left.append_left.append_left
    |>.append_left

theorem tells_of_errorCondition {f : Failure} {phrase : String} (hvalid : f.errorValid = true)
    (h : phrase ∈ f.errorConditions) : Tells phrase f.text := by
  unfold text
  rw [if_pos hvalid]
  exact (tells_conditions h f.error).append_right.append_right.append_left.append_left.append_left
    |>.append_left

theorem letters_track (f : Failure) : letters 'k' f.text =
    if f.errorValid then (if f.command.isRecalibrate && f.errorBit 1 then 1 else 0) else 0 := by
  have hstatus : statusNames.map (letters 'k') = [0, 0, 0, 0] := by decide
  have herror : errorNames.map (letters 'k') = [0, 0, 0, 0, 1, 0] := by decide
  rw [letters_weighed (by decide) hstatus herror]
  simp [weigh, statusFlags, errorFlags]

theorem letters_deferred (f : Failure) : letters 'W' f.text =
    if f.command.isStreaming && f.statusBit 4 then 1 else 0 := by
  have hstatus : statusNames.map (letters 'W') = [0, 0, 1, 0] := by decide
  have herror : errorNames.map (letters 'W') = [0, 0, 0, 0, 0, 0] := by decide
  rw [letters_weighed (by decide) hstatus herror]
  simp [weigh, statusFlags, errorFlags]

/-- One condition beside the one that is meant has this letter, once. -/
theorem letters_timeout (f : Failure) : letters 'm' f.text =
    (if f.statusBit 2 then 1 else 0) +
      if f.errorValid then (if f.command.isStreaming && f.errorBit 0 then 4 else 0) else 0 := by
  have hstatus : statusNames.map (letters 'm') = [0, 1, 0, 0] := by decide
  have herror : errorNames.map (letters 'm') = [0, 0, 0, 0, 0, 4] := by decide
  rw [letters_weighed (by decide) hstatus herror]
  simp [weigh, statusFlags, errorFlags]

theorem tells_track_iff (f : Failure) : Tells trackPhrase f.text ↔
    f.command.isRecalibrate = true ∧ f.errorValid = true ∧ f.errorBit 1 = true := by
  constructor
  · intro h
    have hphrase : letters 'k' trackPhrase = 1 := by decide
    have hle := h.letters_le 'k'
    rw [hphrase, letters_track] at hle
    grind
  · rintro ⟨hclass, hvalid, hbit⟩
    refine tells_of_errorCondition hvalid (mem_present ?_)
    simp [hclass, hbit, trackPhrase]

theorem tells_deferred_iff (f : Failure) : Tells deferredPhrase f.text ↔
    f.command.isStreaming = true ∧ f.statusBit 4 = true := by
  constructor
  · intro h
    have hphrase : letters 'W' deferredPhrase = 1 := by decide
    have hle := h.letters_le 'W'
    rw [hphrase, letters_deferred] at hle
    grind
  · rintro ⟨hclass, hbit⟩
    refine tells_of_statusCondition (mem_present ?_)
    simp [hclass, hbit, deferredPhrase]

theorem tells_timeout_iff (f : Failure) : Tells timeoutPhrase f.text ↔
    f.command.isStreaming = true ∧ f.errorValid = true ∧ f.errorBit 0 = true := by
  constructor
  · intro h
    have hphrase : letters 'm' timeoutPhrase = 4 := by decide
    have hle := h.letters_le 'm'
    rw [hphrase, letters_timeout] at hle
    grind
  · rintro ⟨hclass, hvalid, hbit⟩
    refine tells_of_errorCondition hvalid (mem_present ?_)
    simp [hclass, hbit, timeoutPhrase]

/-- Without the bit that makes the error register valid, the text does not read it. -/
theorem text_of_not_errorValid {f : Failure} (h : f.errorValid = false) (error : UInt8) :
    text { f with error := error } = f.text := by
  have hagain : errorValid { f with error := error } = false := h
  unfold text
  rw [h, hagain]
  rfl

end Failure
end DriveHealth.Ata

namespace DriveHealth.ErrorLog.Entry

open Text Ata.Failure Ata.Command

theorem text_of_failing {e : Entry} {c : CommandRecord} (h : e.failing? = some c) :
    c.text = Ata.Command.text c.registers := by
  have hfound := List.find?_some h
  rw [CommandRecord.text, Option.isNone_iff_eq_none.mp hfound]

/-- An error that cannot be blamed on a command falls into no class. -/
theorem class_iff {p : Ata.Opcode → Bool} (hp : p 0 = false) (e : Entry) (q : Prop) :
    p e.failure.command = true ∧ q ↔ ∃ c, e.failing? = some c ∧ p c.command = true ∧ q := by
  rw [failure]
  cases e.failing? with
  | none => simp [hp]
  | some c => simp

/-- What the text of an error says of the command that it is blamed on. -/
structure Blames (e : Entry) : Prop where
  track_iff : Tells trackPhrase e.errorText ↔
    ∃ c, e.failing? = some c ∧ (0x10 ≤ c.command ∧ c.command ≤ 0x1F) ∧
      e.error.status.toNat.testBit 0 = true ∧ e.error.error.toNat.testBit 1 = true
  /-- The command itself is told apart by its count too. -/
  track_text : Tells trackPhrase e.errorText → ∃ c, e.failing? = some c ∧
    if c.command = 0x12 ∧ c.count ≠ 0 then NamesElementStatus c.text else c.text = "Recalibrate"
  recalibrates_iff :
    (Tells trackPhrase e.errorText → ∃ c, e.failing? = some c ∧ c.text = "Recalibrate") ↔
      ¬ (Tells trackPhrase e.errorText ∧
        ∃ c, e.failing? = some c ∧ c.command = 0x12 ∧ c.count ≠ 0)
  deferred_iff : Tells deferredPhrase e.errorText ↔
    ∃ c, e.failing? = some c ∧ c.command ∈ [0x2A, 0x2B, 0x3A, 0x3B] ∧
      e.error.status.toNat.testBit 4 = true
  timeout_iff : Tells timeoutPhrase e.errorText ↔
    ∃ c, e.failing? = some c ∧ c.command ∈ [0x2A, 0x2B, 0x3A, 0x3B] ∧
      e.error.status.toNat.testBit 0 = true ∧ e.error.error.toNat.testBit 0 = true
  stream_text : Tells deferredPhrase e.errorText ∨ Tells timeoutPhrase e.errorText →
    ∃ c, e.failing? = some c ∧ NamesStream c.text
  errorRegister_unread : e.error.status.toNat.testBit 0 = false →
    ∀ v, errorText { e with error := { e.error with error := v } } = e.errorText

theorem track_iff (e : Entry) : Tells trackPhrase e.errorText ↔
    ∃ c, e.failing? = some c ∧ (0x10 ≤ c.command ∧ c.command ≤ 0x1F) ∧
      e.error.status.toNat.testBit 0 = true ∧ e.error.error.toNat.testBit 1 = true := by
  rw [errorText, tells_track_iff, e.class_iff (p := Ata.Opcode.isRecalibrate) (by decide)]
  simp only [Ata.Opcode.isRecalibrate_iff]
  rfl

/-- The one command of the recalibrate class that is told apart by its count. -/
theorem text_of_track {e : Entry} {c : CommandRecord} (hfailing : e.failing? = some c)
    (hclass : 0x10 ≤ c.command ∧ c.command ≤ 0x1F) :
    if c.command = 0x12 ∧ c.count ≠ 0 then NamesElementStatus c.text
      else c.text = "Recalibrate" := by
  rw [text_of_failing hfailing]
  by_cases hcode : c.command = 0x12
  · rw [Ata.Command.text_of_shared (r := c.registers) hcode]
    by_cases hcount : c.registers.count = 0
    · rw [if_neg fun h => h.2 hcount, if_pos hcount]
    · rw [if_pos ⟨hcode, hcount⟩, if_neg hcount]
      exact namesElementStatus c.registers
  · rw [if_neg fun h => hcode h.1]
    exact text_of_isRecalibrate (r := c.registers) (Ata.Opcode.isRecalibrate_iff.mpr hclass) hcode

theorem ne_recalibrate_of_namesElementStatus {text : String} (h : NamesElementStatus text) :
    text ≠ "Recalibrate" := by
  rintro rfl
  exact absurd h (by unfold NamesElementStatus Begins; decide)

theorem recalibrates_iff (e : Entry) :
    (Tells trackPhrase e.errorText → ∃ c, e.failing? = some c ∧ c.text = "Recalibrate") ↔
      ¬ (Tells trackPhrase e.errorText ∧
        ∃ c, e.failing? = some c ∧ c.command = 0x12 ∧ c.count ≠ 0) := by
  constructor
  · rintro hreads ⟨htells, c, hfailing, hshared⟩
    obtain ⟨d, hfailing', hclass, -⟩ := e.track_iff.mp htells
    obtain rfl := Option.some.inj (hfailing.symm.trans hfailing')
    obtain ⟨d, hfailing', htext⟩ := hreads htells
    obtain rfl := Option.some.inj (hfailing.symm.trans hfailing')
    have hnames := text_of_track hfailing hclass
    rw [if_pos hshared] at hnames
    exact ne_recalibrate_of_namesElementStatus hnames htext
  · intro hnot htells
    obtain ⟨c, hfailing, hclass, -⟩ := e.track_iff.mp htells
    have htext := text_of_track hfailing hclass
    rw [if_neg fun hshared => hnot ⟨htells, c, hfailing, hshared⟩] at htext
    exact ⟨c, hfailing, htext⟩

theorem deferred_iff (e : Entry) : Tells deferredPhrase e.errorText ↔
    ∃ c, e.failing? = some c ∧ c.command ∈ [0x2A, 0x2B, 0x3A, 0x3B] ∧
      e.error.status.toNat.testBit 4 = true := by
  rw [errorText, tells_deferred_iff, e.class_iff (p := Ata.Opcode.isStreaming) (by decide)]
  simp only [Ata.Opcode.isStreaming_iff_mem]
  rfl

theorem timeout_iff (e : Entry) : Tells timeoutPhrase e.errorText ↔
    ∃ c, e.failing? = some c ∧ c.command ∈ [0x2A, 0x2B, 0x3A, 0x3B] ∧
      e.error.status.toNat.testBit 0 = true ∧ e.error.error.toNat.testBit 0 = true := by
  rw [errorText, tells_timeout_iff, e.class_iff (p := Ata.Opcode.isStreaming) (by decide)]
  simp only [Ata.Opcode.isStreaming_iff_mem]
  rfl

theorem namesStream_of_tells {e : Entry}
    (h : Tells deferredPhrase e.errorText ∨ Tells timeoutPhrase e.errorText) :
    ∃ c, e.failing? = some c ∧ NamesStream c.text := by
  obtain ⟨c, hfailing, hclass⟩ : ∃ c, e.failing? = some c ∧
      c.command ∈ [0x2A, 0x2B, 0x3A, 0x3B] := by
    rcases h with h | h
    · obtain ⟨c, hfailing, hclass, -⟩ := e.deferred_iff.mp h
      exact ⟨c, hfailing, hclass⟩
    · obtain ⟨c, hfailing, hclass, -⟩ := e.timeout_iff.mp h
      exact ⟨c, hfailing, hclass⟩
  refine ⟨c, hfailing, ?_⟩
  rw [text_of_failing hfailing]
  exact namesStream_of_isStreaming (r := c.registers) (Ata.Opcode.isStreaming_iff_mem.mpr hclass)

theorem errorText_blames (e : Entry) : e.Blames where
  track_iff := e.track_iff
  track_text htells := by
    obtain ⟨c, hfailing, hclass, -⟩ := e.track_iff.mp htells
    exact ⟨c, hfailing, text_of_track hfailing hclass⟩
  recalibrates_iff := e.recalibrates_iff
  deferred_iff := e.deferred_iff
  timeout_iff := e.timeout_iff
  stream_text := namesStream_of_tells
  errorRegister_unread hvalid v := text_of_not_errorValid (f := e.failure) hvalid v

/-- A failure to report the status of the physical elements, with bit 1 of the error register. -/
def elementStatusError : Entry where
  commands := [{ command := 0x12, count := 1 }]
  error :=
    { transportSpecific := 0, error := 2, count := 0, lba := 0, device := 0x40, status := 0x51,
      vendorUnique := .replicate 19 0, state := 0, lifeHours := 0 }

/-- The error is told as that of a recalibration, and the command is told to be another. -/
theorem not_errorText_recalibrates : ¬ ∀ e : Entry, Tells trackPhrase e.errorText →
    ∃ c, e.failing? = some c ∧ c.text = "Recalibrate" := by
  intro hall
  have htells : Tells trackPhrase elementStatusError.errorText :=
    elementStatusError.track_iff.mpr ⟨{ command := 0x12, count := 1 }, rfl, by decide⟩
  exact elementStatusError.recalibrates_iff.mp (hall elementStatusError)
    ⟨htells, { command := 0x12, count := 1 }, rfl, by decide⟩

end DriveHealth.ErrorLog.Entry
