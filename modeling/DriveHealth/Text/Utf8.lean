import DriveHealth.Bytes

/-!
Text from bytes that may not be valid UTF-8. Each longest run of bytes that starts a character but
cannot finish it, and each byte that starts none, reads as the replacement character.
-/
namespace DriveHealth.Text.Utf8

def replacement : Char := '\ufffd'

def isBetween (lo hi b : UInt8) : Bool := lo ≤ b && b ≤ hi

/-- For a first byte, the range of the byte after it and the count of all bytes that follow it;
first bytes of no longer character have none. -/
def following? (a : UInt8) : Option (UInt8 × UInt8 × Nat) :=
  if isBetween 0xC2 0xDF a then some (0x80, 0xBF, 1)
  else if a = 0xE0 then some (0xA0, 0xBF, 2)
  else if a = 0xED then some (0x80, 0x9F, 2)
  else if isBetween 0xE1 0xEF a then some (0x80, 0xBF, 2)
  else if a = 0xF0 then some (0x90, 0xBF, 3)
  else if isBetween 0xF1 0xF3 a then some (0x80, 0xBF, 3)
  else if a = 0xF4 then some (0x80, 0x8F, 3)
  else none

/-- The bits that a first byte gives. -/
def leadBits (a : UInt8) (n : Nat) : Nat := a.toNat % 2 ^ (6 - n)

/-- Takes `n` bytes, the first within a range and the others continuing, on top of the bits so
far; answers the character or the replacement, and how many bytes were taken. -/
def gather (lo hi : UInt8) (bits taken : Nat) : Nat → List UInt8 → Char × Nat
  | 0, _ => (Char.ofNat bits, taken)
  | _ + 1, [] => (replacement, taken)
  | n + 1, b :: r =>
    if isBetween lo hi b then gather 0x80 0xBF (64 * bits + b.toNat % 64) (taken + 1) n r
    else (replacement, taken)

def first (a : UInt8) (r : List UInt8) : Char × Nat :=
  if a < 0x80 then (Char.ofNat a.toNat, 0)
  else
    match following? a with
    | some (lo, hi, n) => gather lo hi (leadBits a n) 0 n r
    | none => (replacement, 0)

/-- The characters of the bytes behind those that are already taken. -/
def lossyChars : Nat → List UInt8 → List Char
  | _, [] => []
  | taken + 1, _ :: r => lossyChars taken r
  | 0, a :: r => (first a r).1 :: lossyChars (first a r).2 r

def lossy (b : Bytes) : String := .ofList (lossyChars 0 b.data.toList)

end DriveHealth.Text.Utf8
