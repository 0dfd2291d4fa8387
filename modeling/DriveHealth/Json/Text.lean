import DriveHealth.Number.Digits
import DriveHealth.Text.Layout

/-!
Text inside JSON. Quotes, backslashes and control characters are escaped when written; when read,
a control character must be escaped. An escape with a `u` gives a unit of UTF-16, so that two of
them may give one character: text is read as code points first, and then the halves of surrogate
pairs are put together. Text in which a half stands alone is well formed, but has no value.
-/
namespace DriveHealth.Json.Text

open DriveHealth.Number

def hexUnit? (a b c d : Char) : Option Nat := do
  return ((((← hexDigit? a) * 16 + (← hexDigit? b)) * 16 + (← hexDigit? c)) * 16 + (← hexDigit? d))

/-- The code point for the character behind a backslash. -/
def escapedPoint? : Char → Option Nat
  | '"' => some 0x22
  | '\\' => some 0x5C
  | '/' => some 0x2F
  | 'b' => some 0x08
  | 'f' => some 0x0C
  | 'n' => some 0x0A
  | 'r' => some 0x0D
  | 't' => some 0x09
  | _ => none

/-- The code points up to the closing quote, last first, in front of those read so far, and what
follows the quote. -/
def readPoints (acc : List Nat) : List Char → Option (List Nat × List Char)
  | [] => none
  | '"' :: r => some (acc, r)
  | '\\' :: 'u' :: a :: b :: c :: d :: r =>
    match hexUnit? a b c d with
    | some n => readPoints (n :: acc) r
    | none => none
  | '\\' :: c :: r =>
    match escapedPoint? c with
    | some n => readPoints (n :: acc) r
    | none => none
  | c :: r => if c.toNat < 0x20 || c == '\\' then none else readPoints (c.toNat :: acc) r

def isHighSurrogate (n : Nat) : Bool := 0xD800 ≤ n && n ≤ 0xDBFF

def isLowSurrogate (n : Nat) : Bool := 0xDC00 ≤ n && n ≤ 0xDFFF

def pairPoint (high low : Nat) : Nat := 0x10000 + (high - 0xD800) * 0x400 + (low - 0xDC00)

/-- The characters of code points that come last first, in front of those that follow them. -/
def joinPoints (acc : List Char) : List Nat → Option (List Char)
  | [] => some acc
  | [n] => if isHighSurrogate n || isLowSurrogate n then none else some (.ofNat n :: acc)
  | n :: m :: r =>
    if isLowSurrogate n && isHighSurrogate m then joinPoints (.ofNat (pairPoint m n) :: acc) r
    else if isHighSurrogate n || isLowSurrogate n then none
    else joinPoints (.ofNat n :: acc) (m :: r)

/-- Text after its opening quote, and what follows the closing one. -/
def read (cs : List Char) : Option (Option String × List Char) :=
  (readPoints [] cs).map fun (points, r) => ((joinPoints [] points).map .ofList, r)

def escaped (c : Char) : String :=
  match c with
  | '"' => "\\\""
  | '\\' => "\\\\"
  | '\x08' => "\\b"
  | '\x0c' => "\\f"
  | '\n' => "\\n"
  | '\r' => "\\r"
  | '\t' => "\\t"
  | c => if c.toNat < 0x20 then "\\u" ++ DriveHealth.Text.hex 4 c.toNat else c.toString

def quoted (s : String) : String :=
  s.toList.foldl (fun acc c => acc ++ escaped c) "\"" ++ "\""

end DriveHealth.Json.Text
