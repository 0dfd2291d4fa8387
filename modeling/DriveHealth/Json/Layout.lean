import DriveHealth.Json
import DriveHealth.Json.Text

/-!
Writing JSON: on one line, or with two spaces of indentation a level and a field or item a line.
An empty array or object stays on its line, and what has no value is written as null. Each
function adds to the text written so far.
-/
namespace DriveHealth.Json

def Layout.newLine (out : String) (depth : Nat) : String :=
  out ++ "\n" ++ DriveHealth.Text.repeated ' ' (2 * depth)

mutual

def onLine (out : String) : Json → String
  | .null | .unreadable => out ++ "null"
  | .bool b => out ++ (if b then "true" else "false")
  | .whole n => out ++ DriveHealth.Text.integer n
  | .fractional t => out ++ t
  | .text s => out ++ Text.quoted s
  | .array [] => out ++ "[]"
  | .array (v :: r) => itemsOnLine (onLine (out ++ "[") v) r ++ "]"
  | .object [] => out ++ "\x7b\x7d"
  | .object ((k, v) :: r) =>
    fieldsOnLine (onLine (out ++ "\x7b" ++ Text.quoted k ++ ":") v) r ++ "\x7d"

def itemsOnLine (out : String) : List Json → String
  | [] => out
  | v :: r => itemsOnLine (onLine (out ++ ",") v) r

def fieldsOnLine (out : String) : List (String × Json) → String
  | [] => out
  | (k, v) :: r => fieldsOnLine (onLine (out ++ "," ++ Text.quoted k ++ ":") v) r

end

def compact (v : Json) : String := onLine "" v

mutual

def onLines (out : String) (depth : Nat) : Json → String
  | .null | .unreadable => out ++ "null"
  | .bool b => out ++ (if b then "true" else "false")
  | .whole n => out ++ DriveHealth.Text.integer n
  | .fractional t => out ++ t
  | .text s => out ++ Text.quoted s
  | .array [] => out ++ "[]"
  | .array (v :: r) =>
    let first := onLines (Layout.newLine (out ++ "[") (depth + 1)) (depth + 1) v
    Layout.newLine (itemsOnLines first (depth + 1) r) depth ++ "]"
  | .object [] => out ++ "\x7b\x7d"
  | .object ((k, v) :: r) =>
    let start := Layout.newLine (out ++ "\x7b") (depth + 1) ++ Text.quoted k ++ ": "
    let first := onLines start (depth + 1) v
    Layout.newLine (fieldsOnLines first (depth + 1) r) depth ++ "\x7d"

def itemsOnLines (out : String) (depth : Nat) : List Json → String
  | [] => out
  | v :: r => itemsOnLines (onLines (Layout.newLine (out ++ ",") depth) depth v) depth r

def fieldsOnLines (out : String) (depth : Nat) : List (String × Json) → String
  | [] => out
  | (k, v) :: r =>
    let start := Layout.newLine (out ++ ",") depth ++ Text.quoted k ++ ": "
    fieldsOnLines (onLines start depth v) depth r

end

def pretty (v : Json) : String := onLines "" 0 v

end DriveHealth.Json
