import DriveHealth.Attribute.RawFormat

/-!
The meaning of an attribute's raw bytes: a list of labelled quantities, each read from a span of
the bytes, from one byte or from the nominal and worst values.
-/
namespace DriveHealth.Attribute

namespace Meaning

def sector : Nat := 512

inductive Line where
  | count (label : String) (msb lsb : Nat)
  /-- A count of units of the given size in bytes. -/
  | volume (label : String) (msb lsb unit : Nat)
  | percent (label : String) (msb lsb : Nat)
  | nominalPercent (label : String)
  | celsius (label : String) (byte : Nat)
  | nominalCelsius (label : String)
  | worstCelsius (label : String)
  /-- The numbers of the bits that are set. -/
  | bits (label : String) (msb lsb : Nat)
  /-- Hours in bytes 0 to 3 and a remainder in milliseconds in bytes 4 to 6. -/
  | duration (label : String)
  /-- Hours in bytes 0 to 3, and the days they make. -/
  | hours (label : String)
  | failingHeads
  deriving DecidableEq, Inhabited

def setBits (n width : Nat) : List Nat := (List.range width).filter fun i => n.testBit i

def joinNumbers (l : List Nat) : String := ", ".intercalate (l.map Text.decimal)

def days (hours : Nat) : String :=
  Number.Fixed.render 1 (Number.Binary64.div (Number.Binary64.ofNat hours) 24)

namespace Line

def render (line : Line) (a : Attribute) : String :=
  match line with
  | count label msb lsb => label ++ ": " ++ Text.decimal (a.span msb lsb)
  | volume label msb lsb unit =>
    let n := a.span msb lsb
    label ++ ": " ++ Text.decimal n ++ " (" ++ Units.bytes (saturatingMul n unit) ++ ")"
  | percent label msb lsb => label ++ ": " ++ Text.decimal (a.span msb lsb) ++ "%"
  | nominalPercent label => label ++ ": " ++ Text.decimal a.nominal.toNat ++ "%"
  | celsius label byte => label ++ ": " ++ Units.temperature (a.rawByte byte).toNat
  | nominalCelsius label => label ++ ": " ++ Units.temperature a.nominal.toNat
  | worstCelsius label => label ++ ": " ++ Units.temperature a.worst.toNat
  | bits label msb lsb =>
    let set := setBits (a.span msb lsb) 64
    label ++ ": " ++ (if set.isEmpty then "none" else joinNumbers set)
  | duration label => label ++ ": " ++ Units.duration (a.span 3 0) (a.span 6 4)
  | hours label =>
    let n := a.span 3 0
    label ++ ": " ++ Text.decimal n ++ " hours (" ++ days n ++ " days)"
  | failingHeads =>
    let n := a.span 3 0
    if n = 0 then "No head has failed self assessment"
    else "Heads failing self assessment: " ++ joinNumbers (setBits n 32)

end Line
end Meaning

structure Meaning where
  id : UInt8
  lines : List Meaning.Line
  deriving DecidableEq, Inhabited

end DriveHealth.Attribute
