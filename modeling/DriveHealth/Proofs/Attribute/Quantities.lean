import DriveHealth.Attribute.Meaning

/-!
The quantities in the texts of an attribute: the numbers that can be read there, each with the
unit behind it. What a raw format shows and what a line of an explanation states are spans of the
raw bytes, single bytes, or the nominal and worst values.
-/
namespace DriveHealth.Attribute

open Text

inductive Measure where
  | count
  | percentage
  | temperature
  deriving DecidableEq

structure Quantity where
  measure : Measure
  value : Nat
  deriving DecidableEq

/-- What a number measures is told by what stands behind it. -/
def Measure.ofText : List Char → Measure
  | '%' :: _ => percentage
  | ' ' :: 'C' :: _ => temperature
  | _ => count

/-- Reads the quantities of a text, in the middle of a number if some digits were read. -/
def scan : Option Nat → List Char → List Quantity
  | none, [] => []
  | some n, [] => [⟨.count, n⟩]
  | none, c :: r => if c.isDigit then scan (some (c.toNat - '0'.toNat)) r else scan none r
  | some n, c :: r =>
    if c.isDigit then scan (some (10 * n + (c.toNat - '0'.toNat))) r
    else ⟨Measure.ofText (c :: r), n⟩ :: scan none r

def quantities (s : String) : List Quantity := scan none s.toList

/-- The quantity that a line states behind its label. -/
def States (line : String) (q : Quantity) : Prop :=
  ∃ label value, line = label ++ ": " ++ value ∧ (quantities value).head? = some q

section Scan

variable {c : Char} {n : Nat} {r : List Char}

theorem scan_some_plain (hc : c.isDigit = false) :
    scan (some n) (c :: r) = ⟨Measure.ofText (c :: r), n⟩ :: scan none r := by
  rw [scan, if_neg (Bool.eq_false_iff.mp hc)]

theorem scan_digits {ds : List Char} (hds : ∀ d ∈ ds, d.isDigit = true) :
    scan (some n) (ds ++ r) = scan (some (Nat.ofDigitChars 10 ds n)) r := by
  induction ds generalizing n with
  | nil => rfl
  | cons d ds ih =>
    obtain ⟨hd, hrest⟩ := List.forall_mem_cons.mp hds
    rw [List.cons_append, scan, if_pos hd, ih hrest, Nat.ofDigitChars_cons]

/-- A number is read as it was written. -/
theorem scan_decimal (n : Nat) (r : List Char) :
    scan none ((decimal n).toList ++ r) = scan (some n) r := by
  have hdigits : ∀ d ∈ Nat.toDigits 10 n, d.isDigit = true :=
    fun d hd => Nat.isDigit_of_mem_toDigits (by decide) (by decide) hd
  have hback : Nat.ofDigitChars 10 (Nat.toDigits 10 n) 0 = n :=
    Nat.ofDigitChars_toDigits (by decide) (by decide)
  rw [decimal, String.toList_ofList]
  cases h : Nat.toDigits 10 n with
  | nil => exact absurd h Nat.toDigits_ne_nil
  | cons d ds =>
    rw [h] at hdigits hback
    obtain ⟨hd, hrest⟩ := List.forall_mem_cons.mp hdigits
    rw [Nat.ofDigitChars_cons, Nat.mul_zero, Nat.zero_add] at hback
    rw [List.cons_append, scan, if_pos hd, scan_digits hrest, hback]

theorem quantities_percent (n : Nat) : quantities (decimal n ++ "%") = [⟨.percentage, n⟩] := by
  rw [quantities, String.toList_append, scan_decimal]
  rfl

end Scan

/-- Where a quantity is read from. -/
inductive Reading where
  | span (msb lsb : Nat)
  | byte (i : Nat)
  | nominal
  | worst
  deriving DecidableEq

def Reading.value (a : Attribute) : Reading → Nat
  | span msb lsb => a.span msb lsb
  | byte i => (a.rawByte i).toNat
  | nominal => a.nominal.toNat
  | worst => a.worst.toNat

structure Field where
  measure : Measure
  reading : Reading
  deriving DecidableEq

def Field.quantity (a : Attribute) (f : Field) : Quantity := ⟨f.measure, f.reading.value a⟩

namespace RawFormat

/-- The formats of numbers without a unit of bytes. -/
def isQuantity : RawFormat → Bool
  | digits | units32MiB | unitsGiB => false
  | number _ _ | percentage | currentHighestLowest | currentHighest | current | airflow
  | nominalWorst => true

def fields : RawFormat → List Field
  | digits | units32MiB | unitsGiB => []
  | number msb lsb => [⟨.count, .span msb lsb⟩]
  | percentage => [⟨.percentage, .span 3 0⟩]
  | currentHighestLowest => [0, 2, 4].map fun i => ⟨.temperature, .byte i⟩
  | currentHighest => [0, 2].map fun i => ⟨.temperature, .byte i⟩
  | current => [⟨.temperature, .byte 0⟩]
  | airflow => [0, 2, 3].map fun i => ⟨.temperature, .byte i⟩
  | nominalWorst => [⟨.temperature, .nominal⟩, ⟨.temperature, .worst⟩]

theorem quantities_render {f : RawFormat} (hf : f.isQuantity = true) (a : Attribute) :
    quantities (f.render a) = f.fields.map (Field.quantity a) := by
  cases f with
  | digits | units32MiB | unitsGiB => cases hf
  | number msb lsb =>
    have h := scan_decimal (a.span msb lsb) []
    rw [List.append_nil] at h
    exact h
  | percentage => exact quantities_percent (a.span 3 0)
  | currentHighestLowest =>
    change scan none (decimal _ ++ " C (Worst " ++ decimal _ ++ " C, Lowest " ++ decimal _ ++
      " C)").toList = _
    simp [scan_decimal, scan, Measure.ofText, fields, Field.quantity, Reading.value]
  | currentHighest =>
    change scan none (decimal _ ++ " C (Highest " ++ decimal _ ++ " C)").toList = _
    simp [scan_decimal, scan, Measure.ofText, fields, Field.quantity, Reading.value]
  | current =>
    change scan none (decimal _ ++ " C").toList = _
    simp [scan_decimal, scan, Measure.ofText, fields, Field.quantity, Reading.value]
  | airflow =>
    change scan none (decimal _ ++ " C (Low " ++ decimal _ ++ " C, High " ++ decimal _ ++
      " C)").toList = _
    simp [scan_decimal, scan, Measure.ofText, fields, Field.quantity, Reading.value]
  | nominalWorst =>
    change scan none (decimal _ ++ " C (Worst " ++ decimal _ ++ " C)").toList = _
    simp [scan_decimal, scan, Measure.ofText, fields, Field.quantity, Reading.value]

end RawFormat

namespace Meaning.Line

/-- What a line states, unless it numbers bits. -/
def field? : Line → Option Field
  | count _ msb lsb | volume _ msb lsb _ => some ⟨.count, .span msb lsb⟩
  | percent _ msb lsb => some ⟨.percentage, .span msb lsb⟩
  | nominalPercent _ => some ⟨.percentage, .nominal⟩
  | celsius _ byte => some ⟨.temperature, .byte byte⟩
  | nominalCelsius _ => some ⟨.temperature, .nominal⟩
  | worstCelsius _ => some ⟨.temperature, .worst⟩
  | duration _ | hours _ => some ⟨.count, .span 3 0⟩
  | bits _ _ _ | failingHeads => none

/-- A label before a number, and behind the number no digit. -/
theorem states_decimal {text : String} (label : String) (n : Nat) (rest : String)
    (htext : text = label ++ ": " ++ (decimal n ++ rest)) {m : Measure}
    (hm : Measure.ofText rest.toList = m) (hrest : ∀ c ∈ rest.toList.head?, c.isDigit = false) :
    States text ⟨m, n⟩ := by
  refine ⟨label, decimal n ++ rest, htext, ?_⟩
  rw [quantities, String.toList_append, scan_decimal]
  cases h : rest.toList with
  | nil =>
    rw [h] at hm
    rw [← hm]
    rfl
  | cons c r =>
    rw [h] at hm hrest
    rw [scan_some_plain (hrest c rfl), hm]
    rfl

theorem states_temperature (label : String) (n : Nat) :
    States (label ++ ": " ++ Units.temperature n) ⟨.temperature, n⟩ := by
  have hneg : ¬ (n : Int) < 0 := by omega
  refine states_decimal label n (" C (" ++ Number.Fixed.render 1 (Units.fahrenheit n) ++ " F)")
    ?_ (by simp [Measure.ofText]) (by simp)
  rw [Units.temperature, integer, if_neg hneg, Int.natAbs_natCast]
  simp only [String.append_assoc]

theorem states_render {line : Line} {f : Field} (hf : line.field? = some f) (a : Attribute) :
    States (line.render a) (f.quantity a) := by
  cases line with
  | bits _ _ _ | failingHeads => cases hf
  | count label msb lsb =>
    cases hf
    refine states_decimal label _ "" ?_ (by simp [Measure.ofText]) (by simp)
    rw [render, String.append_empty]
    rfl
  | volume label msb lsb unit =>
    cases hf
    refine states_decimal label _
      (" (" ++ Units.bytes (saturatingMul (a.span msb lsb) unit) ++ ")") ?_
      (by simp [Measure.ofText]) (by simp)
    simp only [render, String.append_assoc]
    rfl
  | percent label msb lsb =>
    cases hf
    refine states_decimal label _ "%" ?_ (by simp [Measure.ofText]) (by simp)
    rw [render, String.append_assoc]
    rfl
  | nominalPercent label =>
    cases hf
    refine states_decimal label _ "%" ?_ (by simp [Measure.ofText]) (by simp)
    rw [render, String.append_assoc]
    rfl
  | celsius label byte =>
    cases hf
    exact states_temperature label _
  | nominalCelsius label =>
    cases hf
    exact states_temperature label _
  | worstCelsius label =>
    cases hf
    exact states_temperature label _
  | duration label =>
    cases hf
    refine states_decimal label _ (" hours, " ++ toString (a.span 6 4 / 60000) ++ " minutes, " ++
      toString (a.span 6 4 % 60000 / 1000) ++ " seconds") ?_ (by simp [Measure.ofText]) (by simp)
    simp only [render, Units.duration, String.append_assoc]
    rfl
  | hours label =>
    cases hf
    refine states_decimal label _ (" hours (" ++ days (a.span 3 0) ++ " days)") ?_
      (by simp [Measure.ofText]) (by simp)
    simp only [render, String.append_assoc]
    rfl

end Meaning.Line

end DriveHealth.Attribute
