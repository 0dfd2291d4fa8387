import DriveHealth.Instances

/-!
Digits in text, and the magnitudes that a binary64 number can hold.
-/
namespace DriveHealth.Number

def isDigit (c : Char) : Bool := '0' ≤ c && c ≤ '9'

def hexDigit? (c : Char) : Option Nat :=
  if '0' ≤ c && c ≤ '9' then some (c.toNat - 48)
  else if 'a' ≤ c && c ≤ 'f' then some (c.toNat - 87)
  else if 'A' ≤ c && c ≤ 'F' then some (c.toNat - 55)
  else none

/-- The value of digits in a base, each no less than the digit zero. -/
def valueIn (base : Nat) (l : List Char) : Nat :=
  l.foldl (fun n c => base * n + (hexDigit? c).getD 0) 0

def digitsValue (l : List Char) : Nat := valueIn 10 l

/-- The least magnitude that rounds to infinity. -/
def overflow : Nat := 2 ^ 1024 - 2 ^ 970

/-- Whether digits times a power of ten stay finite. The count of digits before the point settles
all cases but one. -/
def isFinite (digits : List Char) (exponent : Int) : Bool :=
  let significant := digits.dropWhile (· == '0')
  let before := (significant.length : Int) + exponent
  if significant.isEmpty then true
  else if 309 < before then false
  else if before < 309 then true
  else if 0 ≤ exponent then digitsValue significant * 10 ^ exponent.toNat < overflow
  else digitsValue significant < overflow * 10 ^ (-exponent).toNat

end DriveHealth.Number
