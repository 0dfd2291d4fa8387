import DriveHealth.Number.Digits
import DriveHealth.Toml

/-!
TOML numbers and dates. Digits may be parted by single underscores, and an integer must fit a
signed word of 64 bits. A date must be on the calendar.
-/
namespace DriveHealth.Toml

open DriveHealth.Number

namespace Number

/-- The digits that follow a digit. -/
def moreDigits (isOne : Char → Bool) : List Char → Option (List Char × List Char)
  | '_' :: c :: r => if isOne c then (moreDigits isOne r).map fun (l, r) => (c :: l, r) else none
  | ['_'] => none
  | c :: r =>
    if isOne c then (moreDigits isOne r).map fun (l, r) => (c :: l, r) else some ([], c :: r)
  | [] => some ([], [])

def readDigits (isOne : Char → Bool) : List Char → Option (List Char × List Char)
  | c :: r => if isOne c then (moreDigits isOne r).map fun (l, r) => (c :: l, r) else none
  | [] => none

/-- Decimal digits without a zero in front of others. -/
def readWhole : List Char → Option (List Char × List Char)
  | '0' :: r => some (['0'], r)
  | r => readDigits isDigit r

def integer? (i : Int) : Option Toml :=
  if -(2 ^ 63 : Nat) ≤ i ∧ i < (2 ^ 63 : Nat) then some (.integer i) else none

def isDigitIn (base : Nat) (c : Char) : Bool :=
  match hexDigit? c with
  | some d => d < base
  | none => false

def readBased (base : Nat) (cs : List Char) : Option (Toml × List Char) := do
  let (digits, r) ← readDigits (isDigitIn base) cs
  let v ← integer? (valueIn base digits)
  return (v, r)

def readFraction : List Char → Option (Option (List Char) × List Char)
  | '.' :: r => (readDigits isDigit r).map fun (l, r) => (some l, r)
  | r => some (none, r)

def readSigned (negative : Bool) (cs : List Char) : Option (Option Int × List Char) :=
  (readDigits isDigit cs).map fun (l, r) =>
    let n : Int := digitsValue l
    (some (if negative then -n else n), r)

def readExponent : List Char → Option (Option Int × List Char)
  | c :: r =>
    if c == 'e' || c == 'E' then
      match r with
      | '+' :: r => readSigned false r
      | '-' :: r => readSigned true r
      | r => readSigned false r
    else some (none, c :: r)
  | [] => some (none, [])

/-- A real number may not be too large, though a negative one may be too small. -/
def real? (negative : Bool) (lead fraction : List Char) (exponent : Int) : Option Toml :=
  if negative || isFinite (lead ++ fraction) (exponent - fraction.length) then some .real else none

def readDecimal (negative : Bool) (cs : List Char) : Option (Toml × List Char) := do
  let (lead, r) ← readWhole cs
  let (fraction, r) ← readFraction r
  let (exponent, r) ← readExponent r
  let n : Int := digitsValue lead
  let v ←
    if fraction.isNone && exponent.isNone then integer? (if negative then -n else n)
    else real? negative lead (fraction.getD []) (exponent.getD 0)
  return (v, r)

def readUnsigned (negative : Bool) : List Char → Option (Toml × List Char)
  | 'i' :: 'n' :: 'f' :: r => some (.real, r)
  | 'n' :: 'a' :: 'n' :: r => some (.real, r)
  | r => readDecimal negative r

def read : List Char → Option (Toml × List Char)
  | '0' :: 'x' :: r => readBased 16 r
  | '0' :: 'o' :: r => readBased 8 r
  | '0' :: 'b' :: r => readBased 2 r
  | '+' :: r => readUnsigned false r
  | '-' :: r => readUnsigned true r
  | r => readUnsigned false r

end Number

namespace Date

/-- So many digits, and a number within bounds. -/
def field? (count lo hi : Nat) (cs : List Char) : Option (Nat × List Char) :=
  let digits := cs.take count
  let n := digitsValue digits
  if digits.length = count ∧ digits.all isDigit ∧ lo ≤ n ∧ n ≤ hi then some (n, cs.drop count)
  else none

def mark? (c : Char) : List Char → Option (List Char)
  | d :: r => if c == d then some r else none
  | [] => none

def isLeap (year : Nat) : Bool := (year % 4 == 0 && year % 100 != 0) || year % 400 == 0

def daysIn (year month : Nat) : Nat :=
  if month = 2 then if isLeap year then 29 else 28
  else if month = 4 ∨ month = 6 ∨ month = 9 ∨ month = 11 then 30
  else 31

def readDay (cs : List Char) : Option (List Char) := do
  let (year, r) ← field? 4 0 9999 cs
  let r ← mark? '-' r
  let (month, r) ← field? 2 1 12 r
  let r ← mark? '-' r
  let (_, r) ← field? 2 1 (daysIn year month) r
  return r

def readSecondFraction : List Char → Option (List Char)
  | '.' :: r =>
    if (r.takeWhile isDigit).isEmpty then none else some (r.dropWhile isDigit)
  | r => some r

/-- A minute may have a leap second. -/
def readTime (cs : List Char) : Option (List Char) := do
  let (_, r) ← field? 2 0 23 cs
  let r ← mark? ':' r
  let (_, r) ← field? 2 0 59 r
  let r ← mark? ':' r
  let (_, r) ← field? 2 0 60 r
  readSecondFraction r

def readHourOffset (cs : List Char) : Option (List Char) := do
  let (_, r) ← field? 2 0 23 cs
  let r ← mark? ':' r
  let (_, r) ← field? 2 0 59 r
  return r

def readOffset : List Char → Option (List Char)
  | 'Z' :: r | 'z' :: r => some r
  | '+' :: r | '-' :: r => readHourOffset r
  | r => some r

def startsTime (cs : List Char) : Bool := ((field? 2 0 23 cs).bind fun p => mark? ':' p.2).isSome

def startsDay (cs : List Char) : Bool := ((field? 4 0 9999 cs).bind fun p => mark? '-' p.2).isSome

def isSeparator (c : Char) : Bool := c == 'T' || c == 't' || c == ' '

/-- The time after a day, if there is one. -/
def readTimeOfDay : List Char → Option (List Char)
  | c :: r => if isSeparator c && startsTime r then (readTime r).bind readOffset else some (c :: r)
  | [] => some []

def read (cs : List Char) : Option (List Char) :=
  if startsDay cs then (readDay cs).bind readTimeOfDay else readTime cs

end Date
end DriveHealth.Toml
