/-!
TOML values. A table remembers how it came to be, because that decides what may still be added to
it. The size of a real number and the parts of a date are not kept.
-/
namespace DriveHealth

inductive Toml.Origin where
  /-- By a header of its own. -/
  | header
  /-- By the header of a table within it. -/
  | implied
  /-- By a dotted key. -/
  | dotted
  /-- Written in braces. -/
  | braces
  /-- By a dotted key within braces. -/
  | dottedInBraces
  deriving DecidableEq, Inhabited

inductive Toml where
  | text (s : String)
  | integer (i : Int)
  | real
  | boolean (b : Bool)
  | dateTime
  | array (items : List Toml)
  | table (origin : Toml.Origin) (entries : List (String × Toml))
  /-- The tables of headers in double brackets, in order. -/
  | tables (items : List Toml)
  deriving Inhabited

end DriveHealth
