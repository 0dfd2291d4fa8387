import DriveHealth.Instances

/-!
Rounding to binary64: the nearest number with a 53-bit significand, and of two equally near ones
the one with the even significand. The exponent is unbounded, so the rule holds for magnitudes
that a binary64 number can hold without overflow or underflow.
-/
namespace DriveHealth.Number.Binary64

def precision : Nat := 53

/-- The quotient rounded to the nearest natural, ties to even. -/
def divNearestEven (num den : Nat) : Nat :=
  let q := num / den
  let r := num % den
  if den < 2 * r then q + 1
  else if 2 * r < den then q
  else if q % 2 == 0 then q else q + 1

/-- The binary exponent of a positive quotient: `2 ^ e ≤ num / den < 2 ^ (e + 1)`. -/
def exponent (num den : Nat) : Int :=
  let e : Int := (Nat.log2 num : Int) - (Nat.log2 den : Int)
  let fits := if 0 ≤ e then den * 2 ^ e.toNat ≤ num else den ≤ num * 2 ^ (-e).toNat
  if fits then e else e - 1

def roundMagnitude (num den : Nat) : Rat :=
  if num = 0 then 0
  else
    let shift : Int := exponent num den - (precision - 1)
    if 0 ≤ shift then ((divNearestEven num (den * 2 ^ shift.toNat) * 2 ^ shift.toNat : Nat) : Rat)
    else mkRat (divNearestEven (num * 2 ^ (-shift).toNat) den) (2 ^ (-shift).toNat)

def round (q : Rat) : Rat :=
  let m := roundMagnitude q.num.natAbs q.den
  if q.num < 0 then -m else m

def ofNat (n : Nat) : Rat := round n

def ofInt (n : Int) : Rat := round n

def add (a b : Rat) : Rat := round (a + b)

def mul (a b : Rat) : Rat := round (a * b)

def div (a b : Rat) : Rat := round (a / b)

end DriveHealth.Number.Binary64
