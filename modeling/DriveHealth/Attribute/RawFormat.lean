import DriveHealth.Attribute
import DriveHealth.Units

/-!
How the raw bytes of an attribute are shown beside its values: as digits, as a number, as a
quantity in units, as a percentage or as temperatures.
-/
namespace DriveHealth.Attribute

inductive RawFormat where
  | digits
  /-- The number in a span of bytes, named by its most and least significant byte. -/
  | number (msb lsb : Nat)
  /-- A counter of 32 MiB units. -/
  | units32MiB
  /-- A counter of GiB units. -/
  | unitsGiB
  | percentage
  /-- Current in byte 0, highest in byte 2, lowest in byte 4. -/
  | currentHighestLowest
  /-- Current in byte 0, highest in byte 2. -/
  | currentHighest
  | current
  /-- Current in byte 0, lowest and highest of this power cycle in bytes 2 and 3. -/
  | airflow
  /-- The temperature is the nominal and the worst value. -/
  | nominalWorst
  deriving DecidableEq, Inhabited

namespace RawFormat

def counter : RawFormat := number 5 0

def dword : RawFormat := number 3 0

def word : RawFormat := number 1 0

end RawFormat

/-- A product of counters stays at the largest 64-bit number once it passes it. -/
def saturatingMul (n unit : Nat) : Nat := min (n * unit) (2 ^ 64 - 1)

def mebibytes32 : Nat := 32 * 2 ^ 20

def gibibyte : Nat := 2 ^ 30

/-- Fourteen digits, the last byte first. -/
def Raw.text (raw : Raw) : String :=
  String.join (raw.toList.reverse.map fun b => Text.hexCaps 2 b.toNat)

def RawFormat.render (f : RawFormat) (a : Attribute) : String :=
  match f with
  | digits => Raw.text a.raw
  | number msb lsb => Text.decimal (a.span msb lsb)
  | units32MiB => Units.bytes (saturatingMul a.counter mebibytes32)
  | unitsGiB => Units.bytes (saturatingMul a.counter gibibyte)
  | percentage => Text.decimal (a.span 3 0) ++ "%"
  | currentHighestLowest =>
    s!"{(a.rawByte 0).toNat} C (Worst {(a.rawByte 2).toNat} C, Lowest {(a.rawByte 4).toNat} C)"
  | currentHighest => s!"{(a.rawByte 0).toNat} C (Highest {(a.rawByte 2).toNat} C)"
  | current => s!"{(a.rawByte 0).toNat} C"
  | airflow =>
    s!"{(a.rawByte 0).toNat} C (Low {(a.rawByte 2).toNat} C, High {(a.rawByte 3).toNat} C)"
  | nominalWorst => s!"{a.nominal.toNat} C (Worst {a.worst.toNat} C)"

end DriveHealth.Attribute
