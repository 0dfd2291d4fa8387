import DriveHealth.Bytes
import DriveHealth.Text.Blank

/-!
Fixed-width text fields of pages and headers. A byte outside the printable ASCII range reads as
a space, and the padding around the text is dropped.
-/
namespace DriveHealth.Text.Field

def isPrintable (b : UInt8) : Bool := 0x20 ≤ b && b ≤ 0x7E

def charOf (b : UInt8) : Char := if isPrintable b then Char.ofNat b.toNat else ' '

def ofBytes (l : List UInt8) : String := .ofList (trimChars (l.map charOf))

def read (b : Bytes) (off width : Nat) : String := ofBytes (b.slice off width).data.toList

/-- Pairs of characters are stored with the second one first; a last odd byte is dropped. -/
def swapPairs : List UInt8 → List UInt8
  | a :: b :: r => b :: a :: swapPairs r
  | _ => []

def readSwapped (b : Bytes) (off width : Nat) : String :=
  ofBytes (swapPairs (b.slice off width).data.toList)

/-- The first `width` bytes of the text, filled up with spaces. -/
def padded (width : Nat) (s : String) : Bytes :=
  let text := s.toUTF8.extract 0 width
  text ++ Bytes.fill (width - text.size) 0x20

end DriveHealth.Text.Field
