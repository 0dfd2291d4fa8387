import DriveHealth.Text.Layout

/-!
Text written in TOML, in the first of these forms that can hold it: plain in double quotes, in
single quotes, tripled, and with escapes.
-/
namespace DriveHealth.Toml.Quoted

def isControl (c : Char) : Bool :=
  (c.toNat < 0x20 && c != '\t' && c != '\n') || c.toNat == 0x7F

/-- The length of the longest run of a character. -/
def longestRun (c : Char) : Nat → List Char → Nat
  | n, [] => n
  | n, d :: r => if d == c then longestRun c (n + 1) r else max n (longestRun c 0 r)

def escaped (tripled : Bool) (c : Char) : String :=
  match c with
  | '\x08' => "\\b"
  | '\t' => "\\t"
  | '\n' => if tripled then "\n" else "\\n"
  | '\x0c' => "\\f"
  | '\r' => "\\r"
  | '\\' => "\\\\"
  | c => if isControl c then "\\u" ++ Text.hexCaps 4 c.toNat else c.toString

/-- Escapes what must be; of a run of quotes, those beyond the count allowed. -/
def escapeAll (tripled : Bool) : Nat → List Char → String
  | _, [] => ""
  | run, '"' :: r =>
    if run < (if tripled then 2 else 0) then "\"" ++ escapeAll tripled (run + 1) r
    else "\\\"" ++ escapeAll tripled 0 r
  | _, c :: r => escaped tripled c ++ escapeAll tripled 0 r

def basic (cs : List Char) : String := "\"" ++ escapeAll false 0 cs ++ "\""

/-- A text with line feeds starts on a line of its own. -/
def tripledStart (cs : List Char) : String := if cs.contains '\n' then "\n" else ""

def tripledBasic (cs : List Char) : String :=
  "\"\"\"" ++ tripledStart cs ++ escapeAll true 0 cs ++ "\"\"\""

def encode (s : String) : String :=
  let cs := s.toList
  let lines := cs.contains '\n'
  let single := longestRun '\'' 0 cs
  let double := longestRun '"' 0 cs
  if cs.any isControl then if lines then tripledBasic cs else basic cs
  else if !cs.contains '\\' && double = 0 && !lines then basic cs
  else if single = 0 && !lines then "'" ++ s ++ "'"
  else if !cs.contains '\\' && double ≤ 2 then tripledBasic cs
  else if single ≤ 2 then "'''" ++ tripledStart cs ++ s ++ "'''"
  else if lines then tripledBasic cs
  else basic cs

end DriveHealth.Toml.Quoted
