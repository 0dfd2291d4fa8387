import DriveHealth.Farm.FileName
import DriveHealth.Proofs.Files.Joined
import DriveHealth.Proofs.Text.Phrase
import Mathlib.Data.Bool.AllAny

/-!
The name of a combined file as the name of an entry. Whatever text a drive gives for its serial
number, the name has safe characters only and a fixed ending, so that it names an entry of the
directory it is joined to, and serial numbers that are safe already keep their names apart.
-/
namespace DriveHealth.Farm.FileName

open Text Files

/-- An ASCII letter or digit, or a dash. -/
def Plain (c : Char) : Prop := c.isAlphanum = true ∨ c = '-'

/-- A character that may stand in the part of the serial number. -/
def Safe (c : Char) : Prop := Plain c ∨ c = '_'

instance (c : Char) : Decidable (Plain c) :=
  inferInstanceAs (Decidable (c.isAlphanum = true ∨ c = '-'))

instance (c : Char) : Decidable (Safe c) := inferInstanceAs (Decidable (Plain c ∨ c = '_'))

/-- A local time of a year with four digits. -/
structure OnClock (t : LocalTime) : Prop where
  year_nonneg : 0 ≤ t.year
  year_le : t.year ≤ 9999
  month_le : t.month ≤ 12
  day_le : t.day ≤ 31
  hour_le : t.hour ≤ 23
  minute_le : t.minute ≤ 59
  /-- A leap second is the sixtieth. -/
  second_le : t.second ≤ 60

/-- So many digits. -/
structure Digits (n : Nat) (s : String) : Prop where
  length_eq : s.length = n
  isDigit : ∀ c ∈ s.toList, c.isDigit = true

/-- The parts of a name. -/
structure Parts (serial name part date clock : String) : Prop where
  name_eq : name = part ++ "_" ++ date ++ "_" ++ clock ++ ".frmc"
  part_ne : part ≠ ""
  part_safe : ∀ c ∈ part.toList, Safe c
  part_length : trim serial ≠ "" → part.length = (trim serial).length
  part_unknown : trim serial = "" → part = "UNKNOWN"
  date_digits : Digits 8 date
  clock_digits : Digits 6 clock

/-- A name that is safe to join to any directory. -/
structure SafeName (serial name : String) : Prop where
  parts : ∃ part date clock, Parts serial name part date clock
  no_separator : ∀ c ∈ ['/', '\\', '\x00'], c ∉ name.toList
  not_dots : ∀ dots ∈ [".", ".."], name ≠ dots ∧ ¬ Begins dots name
  stays : ∀ (t : Tree) (directory : String) (place : Place),
    t.resolve (join directory name) = .ok place ↔ Tree.pathError? (join directory name) = none ∧
      name.utf8ByteSize ≤ Tree.longestName ∧ t.EntryAt directory name place

/-- A serial number that needs no replacement. -/
structure PlainSerial (serial : String) : Prop where
  ne_empty : trim serial ≠ ""
  plain : ∀ c ∈ (trim serial).toList, Plain c

/-! Digits. -/

theorem Digits.append {m n : Nat} {s t : String} (hs : Digits m s) (ht : Digits n t) :
    Digits (m + n) (s ++ t) where
  length_eq := by rw [String.length_append, hs.length_eq, ht.length_eq]
  isDigit c hc := by
    rw [String.toList_append, List.mem_append] at hc
    exact hc.elim (hs.isDigit c) (ht.isDigit c)

theorem digits_zeroPadded {width n : Nat} (hwidth : 0 < width) (h : n < 10 ^ width) :
    Digits width (zeroPadded width n) where
  length_eq := by
    have hlength := (Nat.length_toDigits_le_iff (b := 10) (by decide) hwidth).mpr h
    simp only [zeroPadded, padLeft, repeated, decimal, String.length_append, String.length_ofList,
      List.length_replicate]
    omega
  isDigit c hc := by
    simp only [zeroPadded, padLeft, repeated, decimal, String.toList_append, String.toList_ofList,
      List.mem_append] at hc
    rcases hc with hc | hc
    · rw [List.eq_of_mem_replicate hc]
      decide
    · exact Nat.isDigit_of_mem_toDigits (by decide) (by decide) hc

/-- The stamp of a time on the clock. -/
theorem exists_stamp {t : LocalTime} (h : OnClock t) :
    ∃ date clock, t.stamp = date ++ "_" ++ clock ∧ Digits 8 date ∧ Digits 6 clock := by
  obtain ⟨hnonneg, hyear, hmonth, hday, hhour, hminute, hsecond⟩ := h
  have htwo : ∀ n ≤ 60, Digits 2 (zeroPadded 2 n) := fun n hn =>
    digits_zeroPadded (by decide) (Nat.lt_of_le_of_lt hn (by decide))
  have hfour : Digits 4 t.yearText := by
    rw [LocalTime.yearText, if_neg (by omega), if_neg (by omega)]
    exact digits_zeroPadded (by decide) (show t.year.natAbs < 10000 by omega)
  refine ⟨t.yearText ++ zeroPadded 2 t.month ++ zeroPadded 2 t.day,
    zeroPadded 2 t.hour ++ zeroPadded 2 t.minute ++ zeroPadded 2 t.second, ?_, ?_, ?_⟩
  · simp only [LocalTime.stamp, String.append_assoc]
  · exact (hfour.append (htwo _ (by omega))).append (htwo _ (by omega))
  · exact ((htwo _ (by omega)).append (htwo _ (by omega))).append (htwo _ hsecond)

/-! The part of the serial number. -/

theorem safe_safeChar (c : Char) : Safe (safeChar c) := by
  unfold safeChar
  split
  case isTrue h =>
    rw [Bool.or_eq_true, beq_iff_eq] at h
    exact .inl h
  case isFalse h => exact .inr rfl

theorem safeChar_of_plain {c : Char} (h : Plain c) : safeChar c = c := by
  rw [safeChar, if_pos]
  rwa [Bool.or_eq_true, beq_iff_eq]

theorem map_safeChar_ne_empty {s : String} (h : s ≠ "") : s.map safeChar ≠ "" := by
  rw [ne_eq, ← String.toList_eq_nil_iff, String.toList_map, List.map_eq_nil_iff,
    String.toList_eq_nil_iff]
  exact h

theorem serialPart_of_trim_eq_empty {serial : String} (h : trim serial = "") :
    serialPart serial = "UNKNOWN" := by
  unfold serialPart
  rw [h]
  simp

theorem serialPart_of_trim_ne_empty {serial : String} (h : trim serial ≠ "") :
    serialPart serial = (trim serial).map safeChar := by
  unfold serialPart
  simp [map_safeChar_ne_empty h]

theorem serialPart_ne_empty (serial : String) : serialPart serial ≠ "" := by
  by_cases h : trim serial = ""
  · rw [serialPart_of_trim_eq_empty h]
    decide
  · rw [serialPart_of_trim_ne_empty h]
    exact map_safeChar_ne_empty h

theorem safe_serialPart (serial : String) : ∀ c ∈ (serialPart serial).toList, Safe c := by
  by_cases h : trim serial = ""
  · rw [serialPart_of_trim_eq_empty h]
    exact List.all_iff_forall_prop.mp (by decide)
  · intro c hc
    rw [serialPart_of_trim_ne_empty h, String.toList_map] at hc
    obtain ⟨d, -, rfl⟩ := List.mem_map.mp hc
    exact safe_safeChar d

/-- A plain serial number is its own part of the name. -/
theorem PlainSerial.serialPart_eq {serial : String} (h : PlainSerial serial) :
    serialPart serial = trim serial := by
  have hkept : (trim serial).toList.map safeChar = (trim serial).toList.map id :=
    List.map_congr_left fun c hc => safeChar_of_plain (h.plain c hc)
  rw [serialPart_of_trim_ne_empty h.ne_empty, ← String.toList_inj, String.toList_map, hkept,
    List.map_id]

theorem exists_parts (serial : String) {t : LocalTime} (h : OnClock t) :
    ∃ part date clock, Parts serial (ofSerial serial t) part date clock := by
  obtain ⟨date, clock, hstamp, hdate, hclock⟩ := exists_stamp h
  refine ⟨serialPart serial, date, clock, ?_⟩
  constructor
  case name_eq => simp only [ofSerial, hstamp, String.append_assoc]
  case part_ne => exact serialPart_ne_empty serial
  case part_safe => exact safe_serialPart serial
  case part_length =>
    intro hne
    rw [serialPart_of_trim_ne_empty hne, String.length_map]
  case part_unknown => exact serialPart_of_trim_eq_empty
  case date_digits => exact hdate
  case clock_digits => exact hclock

section Safe

variable {serial name part date clock : String}

/-- A letter of the name is a safe character or stands in its ending. -/
theorem Parts.mem_name (h : Parts serial name part date clock) {c : Char}
    (hc : c ∈ name.toList) : Safe c ∨ c = '.' := by
  have hdigit : c.isDigit = true → Safe c := fun hd =>
    .inl (.inl (by rw [Char.isAlphanum, hd, Bool.or_true]))
  have hending : ∀ d ∈ ".frmc".toList, Safe d ∨ d = '.' :=
    List.all_iff_forall_prop.mp (by decide)
  have hline : ∀ d ∈ "_".toList, Safe d := List.all_iff_forall_prop.mp (by decide)
  rw [h.name_eq] at hc
  simp only [String.toList_append, List.mem_append] at hc
  rcases hc with ((((hc | hc) | hc) | hc) | hc) | hc
  · exact .inl (h.part_safe c hc)
  · exact .inl (hline c hc)
  · exact .inl (hdigit (h.date_digits.isDigit c hc))
  · exact .inl (hline c hc)
  · exact .inl (hdigit (h.clock_digits.isDigit c hc))
  · exact hending c hc

theorem Parts.not_mem_name (h : Parts serial name part date clock) {c : Char}
    (hc : ¬ (Safe c ∨ c = '.')) : c ∉ name.toList :=
  mt h.mem_name hc

theorem Parts.begins (h : Parts serial name part date clock) : Begins part name := by
  rw [h.name_eq]
  simp only [String.append_assoc]
  exact Begins.append List.prefix_rfl _

/-- The first character is one of the serial number. -/
theorem Parts.not_begins_dot (h : Parts serial name part date clock) : ¬ Begins "." name := by
  rintro ⟨r, hr⟩
  obtain ⟨s, hs⟩ := h.begins
  cases hpart : part.toList with
  | nil => exact h.part_ne (String.toList_eq_nil_iff.mp hpart)
  | cons c l =>
    have hdot : c = '.' := by
      rw [hpart, ← hr] at hs
      exact (List.cons.inj hs).1
    have hsafe := h.part_safe c (hpart ▸ List.mem_cons_self)
    rw [hdot] at hsafe
    exact absurd hsafe (by decide)

theorem Parts.not_begins_dots (h : Parts serial name part date clock) :
    ∀ dots ∈ [".", ".."], ¬ Begins dots name := by
  have hdot : ∀ dots ∈ [".", ".."], Begins "." dots := by decide
  intro dots hdots hbegins
  exact h.not_begins_dot ((hdot dots hdots).trans hbegins)

theorem Parts.entryName (h : Parts serial name part date clock) : EntryName name where
  no_slash := h.not_mem_name (by decide)
  ne_empty := by
    rintro rfl
    exact h.part_ne (String.toList_eq_nil_iff.mp (List.prefix_nil.mp h.begins))
  ne_dot := ne_of_not_begins (h.not_begins_dots "." (by decide))
  ne_dots := ne_of_not_begins (h.not_begins_dots ".." (by decide))

theorem Parts.safeName (h : Parts serial name part date clock) : SafeName serial name := by
  constructor
  case parts => exact ⟨part, date, clock, h⟩
  case no_separator =>
    have hforeign : ∀ c ∈ ['/', '\\', '\x00'], ¬ (Safe c ∨ c = '.') :=
      List.all_iff_forall_prop.mp (by decide)
    exact fun c hc => h.not_mem_name (hforeign c hc)
  case not_dots =>
    intro dots hdots
    have hbegins := h.not_begins_dots dots hdots
    exact ⟨ne_of_not_begins hbegins, hbegins⟩
  case stays => exact fun _ _ _ => Tree.resolve_join_eq_ok_iff h.entryName

end Safe

/-- Two plain serial numbers with one name at one time are one. -/
theorem PlainSerial.trim_eq {s s' : String} {t : LocalTime} (hs : PlainSerial s)
    (hs' : PlainSerial s') (h : ofSerial s t = ofSerial s' t) : trim s = trim s' := by
  unfold ofSerial at h
  simpa [hs.serialPart_eq, hs'.serialPart_eq] using h

/-- Every serial number has a safe name, and the plain ones have names of their own. -/
theorem ofSerial_safe {t : LocalTime} (h : OnClock t) :
    (∀ serial, SafeName serial (ofSerial serial t)) ∧
    ∀ s s', PlainSerial s → PlainSerial s' → ofSerial s t = ofSerial s' t → trim s = trim s' := by
  constructor
  · intro serial
    obtain ⟨part, date, clock, hparts⟩ := exists_parts serial h
    exact hparts.safeName
  · intro s s' hs hs' hname
    exact hs.trim_eq hs' hname

def afternoon : LocalTime := ⟨2024, 3, 9, 14, 5, 7⟩

theorem onClock_afternoon : OnClock afternoon := by
  constructor <;> decide

theorem ofSerial_safe_afternoon : OnClock afternoon ∧
    SafeName "../ab c" (ofSerial "../ab c" afternoon) ∧
    PlainSerial " ZL2 " ∧ PlainSerial "ZL-2" ∧
    ofSerial " ZL2 " afternoon ≠ ofSerial "ZL-2" afternoon := by
  have hfirst : PlainSerial " ZL2 " := ⟨by decide, List.all_iff_forall_prop.mp (by decide)⟩
  have hsecond : PlainSerial "ZL-2" := ⟨by decide, List.all_iff_forall_prop.mp (by decide)⟩
  have hnames := (ofSerial_safe onClock_afternoon).2 " ZL2 " "ZL-2" hfirst hsecond
  exact ⟨onClock_afternoon, (ofSerial_safe onClock_afternoon).1 "../ab c", hfirst, hsecond,
    fun h => absurd (hnames h) (by decide)⟩

example : ofSerial "  ab/c d " afternoon = "ab_c_d_20240309_140507.frmc" := by decide +kernel

end DriveHealth.Farm.FileName
