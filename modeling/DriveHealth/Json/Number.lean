import DriveHealth.Json
import DriveHealth.Number.Digits

/-!
JSON numbers. A number without fraction and exponent that fits a signed or an unsigned 64-bit
word is whole; minus zero and every other number is not. A magnitude that rounds past the largest
finite binary64 value cannot be read.
-/
namespace DriveHealth.Json.Number

open DriveHealth.Number

/-- One digit at least, and no zero in front of another digit. -/
def readWhole : List Char → Option (List Char × List Char)
  | '0' :: r => some (['0'], r)
  | c :: r => if isDigit c then some (c :: r.takeWhile isDigit, r.dropWhile isDigit) else none
  | [] => none

def readFraction : List Char → Option (List Char × List Char)
  | '.' :: r =>
    if (r.takeWhile isDigit).isEmpty then none
    else some (r.takeWhile isDigit, r.dropWhile isDigit)
  | r => some ([], r)

def readExponentDigits (negative : Bool) (r : List Char) : Option (Int × List Char) :=
  let digits := r.takeWhile isDigit
  if digits.isEmpty then none
  else
    let n := digitsValue digits
    some (if negative then -n else n, r.dropWhile isDigit)

def readExponent : List Char → Option (Option Int × List Char)
  | c :: r =>
    if c == 'e' || c == 'E' then
      (match r with
        | '-' :: r => readExponentDigits true r
        | '+' :: r => readExponentDigits false r
        | r => readExponentDigits false r).map fun (e, r) => (some e, r)
    else some (none, c :: r)
  | [] => some (none, [])

def classify (negative : Bool) (lead fraction : List Char) (exponent : Option Int) : Json :=
  let n := digitsValue lead
  let signed : Int := if negative then -n else n
  let exact := fraction.isEmpty && exponent.isNone && !(negative && n == 0) &&
    -(2 ^ 63 : Nat) ≤ signed && signed < (2 ^ 64 : Nat)
  if exact then .whole signed
  else if isFinite (lead ++ fraction) (exponent.getD 0 - fraction.length) then
    let sign := if negative then "-" else ""
    let tail := if fraction.isEmpty then "" else "." ++ String.ofList fraction
    .fractional (sign ++ String.ofList lead ++ tail ++
      (match exponent with | some e => "e" ++ toString e | none => ""))
  else .unreadable

def readUnsigned (negative : Bool) (cs : List Char) : Option (Json × List Char) := do
  let (lead, r) ← readWhole cs
  let (fraction, r) ← readFraction r
  let (exponent, r) ← readExponent r
  return (classify negative lead fraction exponent, r)

def read : List Char → Option (Json × List Char)
  | '-' :: r => readUnsigned true r
  | r => readUnsigned false r

end DriveHealth.Json.Number
