/-!
Text laid out in columns, and numbers written with a least count of digits.
-/
namespace DriveHealth.Text

def repeated (c : Char) (n : Nat) : String := .ofList (List.replicate n c)

/-- Right-aligned in at least `width` characters. -/
def padLeft (width : Nat) (s : String) (c : Char) : String :=
  repeated c (width - s.length) ++ s

/-- Left-aligned in at least `width` characters. -/
def padRight (width : Nat) (s : String) : String := s ++ repeated ' ' (width - s.length)

def decimal (n : Nat) : String := .ofList (Nat.toDigits 10 n)

def integer (i : Int) : String :=
  if i < 0 then "-" ++ decimal i.natAbs else decimal i.natAbs

def hexLower (n : Nat) : String := .ofList (Nat.toDigits 16 n)

def hexUpper (n : Nat) : String := .ofList ((Nat.toDigits 16 n).map Char.toUpper)

/-- At least `width` decimal digits. -/
def zeroPadded (width n : Nat) : String := padLeft width (decimal n) '0'

/-- At least `width` hexadecimal digits in lower case. -/
def hex (width n : Nat) : String := padLeft width (hexLower n) '0'

/-- At least `width` hexadecimal digits in upper case. -/
def hexCaps (width n : Nat) : String := padLeft width (hexUpper n) '0'

def hexByte (b : UInt8) : String := hex 2 b.toNat

def hexBytes (l : List UInt8) : String := l.foldl (fun s b => s ++ hexByte b) ""

/-- Each line ends with a line feed. -/
def ofLines (l : List String) : String := l.foldl (fun s line => s ++ line ++ "\n") ""

end DriveHealth.Text
