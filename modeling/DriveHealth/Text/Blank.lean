/-!
Blank characters: the Unicode property White_Space, and the trimming of text by it.
-/
namespace DriveHealth.Text

/-- The twenty-five characters with the Unicode property White_Space. -/
def isBlank (c : Char) : Bool :=
  let n := c.toNat
  (9 ≤ n && n ≤ 13) || n == 0x20 || n == 0x85 || n == 0xA0 || n == 0x1680 ||
    (0x2000 ≤ n && n ≤ 0x200A) || n == 0x2028 || n == 0x2029 || n == 0x202F || n == 0x205F ||
    n == 0x3000

def trimStart (l : List Char) : List Char := l.dropWhile isBlank

def trimEnd (l : List Char) : List Char := (trimStart l.reverse).reverse

def trimChars (l : List Char) : List Char := trimEnd (trimStart l)

def trim (s : String) : String := .ofList (trimChars s.toList)

end DriveHealth.Text
