/-!
JSON values. An object keeps its fields in order, so that a written value shows them as they were
given; whole numbers are exact, and any other number is kept as its text. Text that is well formed
can still have no value, and then it may stand only where nobody looks at it.
-/
namespace DriveHealth

inductive Json where
  | null
  | bool (b : Bool)
  | whole (n : Int)
  | fractional (text : String)
  | text (s : String)
  | array (items : List Json)
  | object (fields : List (String × Json))
  /-- Text or a field name with half of a surrogate pair, or a number that is too large. -/
  | unreadable
  deriving Inhabited

namespace Json

/-- Of several fields of one name the last counts. -/
def field? (name : String) : Json → Option Json
  | object fields => (fields.reverse.find? fun f => f.1 == name).map Prod.snd
  | _ => none

def text? : Json → Option String
  | text s => some s
  | _ => none

def nat? : Json → Option Nat
  | whole n => if 0 ≤ n then some n.toNat else none
  | _ => none

def bool? : Json → Option Bool
  | bool b => some b
  | _ => none

def fields? : Json → Option (List (String × Json))
  | object l => some l
  | _ => none

def ofNat (n : Nat) : Json := whole n

def ofByte (b : UInt8) : Json := whole b.toNat

def ofOption {α : Type} (f : α → Json) : Option α → Json
  | some a => f a
  | none => null

def ofList {α : Type} (f : α → Json) (l : List α) : Json := array (l.map f)

end Json
end DriveHealth
