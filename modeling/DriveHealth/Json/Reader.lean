import DriveHealth.Json.Number
import DriveHealth.Json.Text

/-!
Reading JSON text. What is open but not closed is kept as a list of frames, innermost first, so
values may nest to any depth. Only white space may follow the value. Every step but the last takes
at least one character, so the length of the text bounds the steps.
-/
namespace DriveHealth.Json.Reader

/-- An array or object that is not closed yet. What it holds so far comes last first, and a name
that cannot be read is none. -/
inductive Frame where
  | array (items : List Json)
  /-- The name belongs to the value that is to come. -/
  | object (fields : List (Option String × Json)) (name : Option String)

/-- Where reading stands: behind a value, or in front of one. -/
structure State where
  value : Option Json
  frames : List Frame
  rest : List Char

def isSpace (c : Char) : Bool := c == ' ' || c == '\n' || c == '\t' || c == '\r'

def skipSpace (cs : List Char) : List Char := cs.dropWhile isSpace

def literal (word : List Char) (v : Json) (frames : List Frame) (cs : List Char) :
    Option State :=
  if cs.take word.length == word then some ⟨some v, frames, cs.drop word.length⟩ else none

def textValue : Option String → Json
  | some s => .text s
  | none => .unreadable

/-- An object of fields that come last first; one name that cannot be read spoils it. -/
def objectValue (fields : List (Option String × Json)) : Json :=
  match fields.reverse.mapM fun (name, v) => name.map fun name => (name, v) with
  | some l => .object l
  | none => .unreadable

/-- The name of a field, and the colon behind it. -/
def readName (cs : List Char) : Option (Option String × List Char) :=
  match skipSpace cs with
  | '"' :: r =>
    match Text.read r with
    | some (name, r) =>
      match skipSpace r with
      | ':' :: r => some (name, r)
      | _ => none
    | none => none
  | _ => none

/-- Reads a value, or opens one that holds others. -/
def State.enter (frames : List Frame) (cs : List Char) : Option State :=
  match skipSpace cs with
  | '"' :: r => (Text.read r).map fun (s, r) => ⟨some (textValue s), frames, r⟩
  | '[' :: r =>
    match skipSpace r with
    | ']' :: r => some ⟨some (.array []), frames, r⟩
    | r => some ⟨none, .array [] :: frames, r⟩
  | '\x7b' :: r =>
    match skipSpace r with
    | '\x7d' :: r => some ⟨some (.object []), frames, r⟩
    | r => (readName r).map fun (name, r) => ⟨none, .object [] name :: frames, r⟩
  | 'n' :: r => literal ['u', 'l', 'l'] .null frames r
  | 't' :: r => literal ['r', 'u', 'e'] (.bool true) frames r
  | 'f' :: r => literal ['a', 'l', 's', 'e'] (.bool false) frames r
  | r => (Number.read r).map fun (v, r) => ⟨some v, frames, r⟩

/-- Takes a value into a frame, which stays open behind a comma and is else closed. -/
def State.leave (v : Json) (f : Frame) (frames : List Frame) (cs : List Char) : Option State :=
  match f, skipSpace cs with
  | .array l, ',' :: r => some ⟨none, .array (v :: l) :: frames, r⟩
  | .array l, ']' :: r => some ⟨some (.array (v :: l).reverse), frames, r⟩
  | .object l name, ',' :: r =>
    (readName r).map fun (next, r) => ⟨none, .object ((name, v) :: l) next :: frames, r⟩
  | .object l name, '\x7d' :: r => some ⟨some (objectValue ((name, v) :: l)), frames, r⟩
  | _, _ => none

/-- The value that is open in no frame, and what follows it. -/
def run : Nat → State → Option (Json × List Char)
  | 0, _ => none
  | fuel + 1, ⟨none, frames, cs⟩ =>
    match State.enter frames cs with
    | some s => run fuel s
    | none => none
  | fuel + 1, ⟨some v, f :: frames, cs⟩ =>
    match State.leave v f frames cs with
    | some s => run fuel s
    | none => none
  | _ + 1, ⟨some v, [], cs⟩ => some (v, cs)

def ofChars? (cs : List Char) : Option Json :=
  match run (cs.length + 1) ⟨none, [], cs⟩ with
  | some (v, r) => if (skipSpace r).isEmpty then some v else none
  | none => none

def ofString? (s : String) : Option Json := ofChars? s.toList

end DriveHealth.Json.Reader
