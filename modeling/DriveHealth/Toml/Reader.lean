import DriveHealth.Toml.Number
import DriveHealth.Toml.Table
import DriveHealth.Toml.Text

/-!
Reading TOML text. Arrays and tables in braces nest less than eighty deep, a key has less than
eighty parts, and every step takes at least one character, so the length of the text bounds the
steps.
-/
namespace DriveHealth.Toml.Reader

open Toml.Text

def limit : Nat := 80

def isBareKeyChar (c : Char) : Bool := c.isAlphanum || c == '_' || c == '-'

def simpleKey : List Char → Option (String × List Char)
  | '"' :: r => readSingle '"' r
  | '\'' :: r => readSingle '\'' r
  | r =>
    let key := r.takeWhile isBareKeyChar
    if key.isEmpty then none else some (.ofList key, r.dropWhile isBareKeyChar)

def keyParts : Nat → List Char → Option (List String × List Char)
  | 0, _ => none
  | fuel + 1, cs =>
    match simpleKey (skipBlanks cs) with
    | none => none
    | some (part, r) =>
      match skipBlanks r with
      | '.' :: r => (keyParts fuel r).map fun (l, r) => (part :: l, r)
      | r => some ([part], r)

/-- A dotted key with the blanks around it. -/
def key (cs : List Char) : Option (List String × List Char) :=
  match keyParts (cs.length + 1) cs with
  | some (l, r) => if l.length < limit then some (l, r) else none
  | none => none

/-- A value of one word or number. -/
def scalar : List Char → Option (Toml × List Char)
  | '"' :: r => (Text.read '"' r).map fun (s, r) => (.text s, r)
  | '\'' :: r => (Text.read '\'' r).map fun (s, r) => (.text s, r)
  | 't' :: 'r' :: 'u' :: 'e' :: r => some (.boolean true, r)
  | 'f' :: 'a' :: 'l' :: 's' :: 'e' :: r => some (.boolean false, r)
  | r =>
    if Date.startsDay r || Date.startsTime r then (Date.read r).map fun r => (.dateTime, r)
    else Number.read r

def ofPairs (pairs : List (List String × Toml)) : Option Toml :=
  (Entries.insertAll .dottedInBraces [] pairs).map (.table .braces)

mutual

def value : Nat → Nat → List Char → Option (Toml × List Char)
  | 0, _, _ => none
  | fuel + 1, depth, cs =>
    match cs with
    | '[' :: r =>
      match depth with
      | 0 => none
      | depth + 1 => items fuel depth [] r
    | '\x7b' :: r =>
      match depth with
      | 0 => none
      | depth + 1 =>
        match skipBlanks r with
        | '\x7d' :: r => some (.table .braces [], r)
        | r => pairs fuel depth [] r
    | r => scalar r

def items : Nat → Nat → List Toml → List Char → Option (Toml × List Char)
  | 0, _, _, _ => none
  | fuel + 1, depth, acc, cs =>
    match skipLayout false cs with
    | ']' :: r => some (.array acc.reverse, r)
    | r =>
      match value fuel depth r with
      | none => none
      | some (v, r) =>
        match skipLayout false r with
        | ',' :: r => items fuel depth (v :: acc) r
        | ']' :: r => some (.array (v :: acc).reverse, r)
        | _ => none

def pairs : Nat → Nat → List (List String × Toml) → List Char → Option (Toml × List Char)
  | 0, _, _, _ => none
  | fuel + 1, depth, acc, cs =>
    match key cs with
    | some (path, '=' :: r) =>
      match value fuel depth (skipBlanks r) with
      | none => none
      | some (v, r) =>
        match skipBlanks r with
        | ',' :: r => pairs fuel depth ((path, v) :: acc) r
        | '\x7d' :: r => (ofPairs ((path, v) :: acc).reverse).map fun t => (t, r)
        | _ => none
    | _ => none

end

/-- A key with its value, up to the end of the line. -/
def pair (cs : List Char) : Option ((List String × Toml) × List Char) :=
  match key cs with
  | some (path, '=' :: r) =>
    match value (2 * r.length + 2) (limit - 1) (skipBlanks r) with
    | some (v, r) => (lineEnd? r).map fun r => ((path, v), r)
    | none => none
  | _ => none

def header : List Char → Option (Header × List Char)
  | '[' :: '[' :: r =>
    match key r with
    | some (path, ']' :: ']' :: r) => (lineEnd? r).map fun r => (.double path, r)
    | _ => none
  | '[' :: r =>
    match key r with
    | some (path, ']' :: r) => (lineEnd? r).map fun r => (.single path, r)
    | _ => none
  | _ => none

/-- Reads the sections behind the one that is being read; its pairs are newest first. -/
def sections : Nat → Header → List (List String × Toml) → List Char → Option (List Section)
  | 0, _, _, _ => none
  | fuel + 1, h, found, cs =>
    match skipBlanks cs with
    | [] => some [⟨h, found.reverse⟩]
    | '[' :: r =>
      match header ('[' :: r) with
      | some (next, r) => (sections fuel next [] r).map fun l => ⟨h, found.reverse⟩ :: l
      | none => none
    | c :: r =>
      match lineEnd? (c :: r) with
      | some r => sections fuel h found r
      | none =>
        match pair (c :: r) with
        | some (p, r) => sections fuel h (p :: found) r
        | none => none

/-- A byte order mark in front is passed over. -/
def skipMark : List Char → List Char
  | '\ufeff' :: r => r
  | r => r

def ofString? (s : String) : Option Entries :=
  (sections (s.length + 2) .root [] (skipMark s.toList)).bind Section.assemble

end DriveHealth.Toml.Reader
