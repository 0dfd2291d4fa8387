import DriveHealth.Toml

/-!
Putting a TOML document together. A key is given once, a table has one header at most, and a
dotted key adds to no table that has a header or braces. A header in double brackets adds a table
to a list, and the last table of a list stands for it in longer paths.
-/
namespace DriveHealth.Toml

abbrev Entries := List (String × Toml)

namespace Entries

def replace (es : Entries) (key : String) (v : Toml) : Entries :=
  es.map fun e => if e.1 = key then (key, v) else e

/-- Whether a dotted key may lead through a table, `last` if the key to set is in it. -/
def passable (last : Bool) : Origin → Bool
  | .dotted | .dottedInBraces => true
  | .implied => !last
  | .header | .braces => false

/-- The entries of the last table of a list, and how to put them back. -/
def ofLast (items : List Toml) : Option (Entries × (Entries → Toml)) :=
  match items.getLast? with
  | some (.table origin es) => some (es, fun es => .tables (items.dropLast ++ [.table origin es]))
  | _ => none

/-- Sets a dotted key; `origin` is that of the tables that it makes. -/
def insert (origin : Origin) : List String → Toml → Entries → Option Entries
  | [], _, _ => none
  | [key], v, es => if (es.lookup key).isSome then none else some (es ++ [(key, v)])
  | key :: rest, v, es =>
    match es.lookup key with
    | none => (insert origin rest v []).map fun t => es ++ [(key, .table origin t)]
    | some (.table o t) =>
      if passable (rest.length == 1) o then
        (insert origin rest v t).map fun t => es.replace key (.table o t)
      else none
    | some (.tables items) =>
      if rest.length = 1 then none
      else do
        let (t, wrap) ← ofLast items
        let t ← insert origin rest v t
        return es.replace key (wrap t)
    | some _ => none

/-- Changes the item at the path of a header; tables on the way are made. -/
def atPath (change : Option Toml → Option Toml) : List String → Entries → Option Entries
  | [], _ => none
  | [key], es =>
    match es.lookup key with
    | none => (change none).map fun v => es ++ [(key, v)]
    | some old => (change (some old)).map fun v => es.replace key v
  | key :: rest, es =>
    match es.lookup key with
    | none => (atPath change rest []).map fun t => es ++ [(key, .table .implied t)]
    | some (.table o t) =>
      if o = .braces ∨ o = .dottedInBraces then none
      else (atPath change rest t).map fun t => es.replace key (.table o t)
    | some (.tables items) => do
      let (t, wrap) ← ofLast items
      let t ← atPath change rest t
      return es.replace key (wrap t)
    | some _ => none

/-- Several dotted keys in order. -/
def insertAll (origin : Origin) (es : Entries) (pairs : List (List String × Toml)) :
    Option Entries :=
  pairs.foldlM (fun es (path, v) => insert origin path v es) es

end Entries

inductive Header where
  | root
  | single (path : List String)
  | double (path : List String)

/-- A header with the keys below it. -/
structure Section where
  header : Header
  pairs : List (List String × Toml)

namespace Section

/-- The table of a header in single brackets, in which only headers may have put something. -/
def table (s : Section) : Option Toml → Option Toml
  | none => (Entries.insertAll .dotted [] s.pairs).map (.table .header)
  | some (.table .implied es) => (Entries.insertAll .dotted es s.pairs).map (.table .header)
  | some _ => none

def addTable (s : Section) : Option Toml → Option Toml
  | none => (Entries.insertAll .dotted [] s.pairs).map fun es => .tables [.table .header es]
  | some (.tables l) =>
    (Entries.insertAll .dotted [] s.pairs).map fun es => .tables (l ++ [.table .header es])
  | some _ => none

def addTo (s : Section) (es : Entries) : Option Entries :=
  match s.header with
  | .root => Entries.insertAll .dotted es s.pairs
  | .single path => es.atPath s.table path
  | .double path => es.atPath s.addTable path

def assemble (l : List Section) : Option Entries := l.foldlM (fun es s => s.addTo es) []

end Section
end DriveHealth.Toml
