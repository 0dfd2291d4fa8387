import DriveHealth.Number.Digits

/-!
Text inside TOML, and what may stand between values. Text in double quotes has escapes, text in
single quotes has none; either may be tripled, and then holds line ends, each of which reads as a
line feed.
-/
namespace DriveHealth.Toml.Text

open DriveHealth.Number

def isBlank (c : Char) : Bool := c == ' ' || c == '\t'

def skipBlanks (cs : List Char) : List Char := cs.dropWhile isBlank

/-- Every control character but the tab must be escaped. -/
def isPlain (c : Char) : Bool := c == '\t' || (0x20 ≤ c.toNat && c.toNat != 0x7F)

def newLine? : List Char → Option (List Char)
  | '\n' :: r => some r
  | '\r' :: '\n' :: r => some r
  | _ => none

def skipComment : List Char → List Char
  | '#' :: r => r.dropWhile isPlain
  | r => r

/-- Nothing but blanks and a comment may follow on the line. -/
def lineEnd? (cs : List Char) : Option (List Char) :=
  match skipComment (skipBlanks cs) with
  | [] => some []
  | r => newLine? r

/-- Blanks, line ends and comments. -/
def skipLayout (inComment : Bool) : List Char → List Char
  | '\n' :: r => skipLayout false r
  | '\r' :: '\n' :: r => skipLayout false r
  | c :: r =>
    if inComment then if isPlain c then skipLayout true r else c :: r
    else if isBlank c then skipLayout false r
    else if c == '#' then skipLayout true r
    else c :: r
  | [] => []

def skipSpace : List Char → List Char
  | '\r' :: '\n' :: r => skipSpace r
  | c :: r => if isBlank c || c == '\n' then skipSpace r else c :: r
  | [] => []

/-- Surrogates are no characters. -/
def scalar? (n : Nat) : Option Char :=
  if n < 0xD800 ∨ (0xDFFF < n ∧ n < 0x110000) then some (Char.ofNat n) else none

def readHex (count : Nat) (cs : List Char) : Option (Char × List Char) :=
  let digits := cs.take count
  if digits.length = count ∧ digits.all fun c => (hexDigit? c).isSome then
    (scalar? (valueIn 16 digits)).map fun c => (c, cs.drop count)
  else none

def readEscape : List Char → Option (Char × List Char)
  | '"' :: r => some ('"', r)
  | '\\' :: r => some ('\\', r)
  | 'b' :: r => some ('\x08', r)
  | 'f' :: r => some ('\x0c', r)
  | 'n' :: r => some ('\n', r)
  | 'r' :: r => some ('\r', r)
  | 't' :: r => some ('\t', r)
  | 'u' :: r => readHex 4 r
  | 'U' :: r => readHex 8 r
  | _ => none

/-- A backslash at the end of a line takes the white space after it away. -/
def continued? (cs : List Char) : Option (List Char) :=
  (newLine? (skipBlanks cs)).map skipSpace

/-- What a character that neither closes nor escapes stands for. -/
def readPlain (tripled : Bool) (cs : List Char) : Option (Char × List Char) :=
  match (if tripled then newLine? cs else none), cs with
  | some r, _ => some ('\n', r)
  | none, c :: r => if isPlain c then some (c, r) else none
  | none, [] => none

/-- A backslash and what follows it. -/
def readEscaped (tripled : Bool) (cs : List Char) : Option (List Char × List Char) :=
  match (if tripled then continued? cs else none) with
  | some r => some ([], r)
  | none => (readEscape cs).map fun (c, r) => ([c], r)

/-- The rest of a text after its opening quotes. Quotes within a tripled text are closed by the
last three of them, and there may be five at most. -/
def readBody (quote : Char) (tripled : Bool) :
    Nat → List Char → List Char → Option (String × List Char)
  | 0, _, _ => none
  | fuel + 1, acc, cs =>
    match cs with
    | [] => none
    | c :: r =>
      if c == quote then
        let run := (cs.takeWhile (· == quote)).length
        if !tripled then some (.ofList acc.reverse, r)
        else if run < 3 then readBody quote tripled fuel (c :: acc) r
        else if run ≤ 5 then
          some (.ofList (acc.reverse ++ List.replicate (run - 3) quote), cs.drop run)
        else none
      else if c == '\\' && quote == '"' then
        match readEscaped tripled r with
        | some (l, r) => readBody quote tripled fuel (l ++ acc) r
        | none => none
      else
        match readPlain tripled cs with
        | some (c, r) => readBody quote tripled fuel (c :: acc) r
        | none => none

/-- After one opening quote, a text on one line. -/
def readSingle (quote : Char) (cs : List Char) : Option (String × List Char) :=
  readBody quote false (cs.length + 1) [] cs

/-- After one opening quote; two more make it tripled, and a line end right after them counts for
nothing. -/
def read (quote : Char) (cs : List Char) : Option (String × List Char) :=
  match cs with
  | a :: b :: r =>
    if a == quote && b == quote then
      readBody quote true (r.length + 1) [] ((newLine? r).getD r)
    else readSingle quote cs
  | _ => readSingle quote cs

end DriveHealth.Toml.Text
