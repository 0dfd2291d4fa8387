import DriveHealth.Text.Blank
import DriveHealth.Text.Layout

/-!
The name of a combined file: the serial number of the drive, with an underscore for every
character that is no ASCII letter, digit or dash, and the local time at which it was pulled.
-/
namespace DriveHealth.Farm

/-- A local date and time; year 0 is the one before year 1. -/
structure LocalTime where
  year : Int
  month : Nat
  day : Nat
  hour : Nat
  minute : Nat
  second : Nat
  deriving DecidableEq, Inhabited

/-- Four digits, or more of them behind a sign for a year that does not fit. -/
def LocalTime.yearText (t : LocalTime) : String :=
  let digits := Text.zeroPadded 4 t.year.natAbs
  if t.year < 0 then "-" ++ digits else if 9999 < t.year then "+" ++ digits else digits

def LocalTime.stamp (t : LocalTime) : String :=
  t.yearText ++ Text.zeroPadded 2 t.month ++ Text.zeroPadded 2 t.day ++ "_" ++
    Text.zeroPadded 2 t.hour ++ Text.zeroPadded 2 t.minute ++ Text.zeroPadded 2 t.second

namespace FileName

def safeChar (c : Char) : Char := if c.isAlphanum || c == '-' then c else '_'

def serialPart (serial : String) : String :=
  let safe := (Text.trim serial).map safeChar
  if safe.isEmpty then "UNKNOWN" else safe

def ofSerial (serial : String) (t : LocalTime) : String :=
  serialPart serial ++ "_" ++ t.stamp ++ ".frmc"

end FileName
end DriveHealth.Farm
