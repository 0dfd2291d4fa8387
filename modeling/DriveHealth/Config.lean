import DriveHealth.Attribute.Report
import DriveHealth.Check.Scsi
import DriveHealth.Farm.Pull
import DriveHealth.Toml.Quoted
import DriveHealth.Toml.Reader

/-!
The configuration: where combined files go and how they are pulled, how attributes are shown, and
how long a check may wait. It is TOML text in which every key may be missing; a key of another
name is passed over, and a value of another type is refused.
-/
namespace DriveHealth

structure Config where
  outputDirectory : String := ""
  copy : Farm.Copy := .disc
  hint : UInt32 := 0
  view : Attribute.View := .hybrid
  family : Option VendorFamily := none
  waitLimit : UInt64 := 1000
  deriving DecidableEq, Inhabited

namespace Config

/-- The fields of a section by name, or by place if it is an array; a date holds none. -/
def fieldsOf? (names : List String) : Toml → Option (List (Option Toml))
  | .table _ entries => some (names.map fun name => entries.lookup name)
  | .array items | .tables items =>
    some ((items.take names.length).map some ++
      List.replicate (names.length - items.length) none)
  | .dateTime => some (names.map fun _ => none)
  | .text _ | .integer _ | .real | .boolean _ => none

def orDefault {α : Type} (default : α) (decode : Toml → Option α) : Option Toml → Option α
  | none => some default
  | some v => decode v

def text? : Toml → Option String
  | .text s => some s
  | _ => none

def below? (bound : Nat) : Toml → Option Nat
  | .integer i => if 0 ≤ i ∧ i < bound then some i.toNat else none
  | _ => none

def holdsNothing : Toml → Bool
  | .table _ [] | .array [] | .tables [] => true
  | _ => false

/-- A choice is its name, or a table with the name as its only key, for nothing. -/
def choice? {α : Type} (ofName? : String → Option α) : Toml → Option α
  | .text s => ofName? s
  | .table _ [(name, v)] => if holdsNothing v then ofName? name else none
  | _ => none

def addFarm (c : Config) (v : Toml) : Option Config := do
  let fields ← fieldsOf? ["output_dir", "copy_source", "transfer_hint"] v
  let [directory, copy, hint] := fields | none
  return { c with
    outputDirectory := ← orDefault c.outputDirectory text? directory
    copy := ← orDefault c.copy (choice? Farm.Copy.ofName?) copy
    hint := ← orDefault c.hint (fun v => (below? (2 ^ 32) v).map .ofNat) hint }

def addSmart (c : Config) (v : Toml) : Option Config := do
  let fields ← fieldsOf? ["mode", "family"] v
  let [view, family] := fields | none
  return { c with
    view := ← orDefault c.view (choice? Attribute.View.ofName?) view
    family := ← orDefault c.family (fun v => (choice? VendorFamily.ofName? v).map some) family }

def addCheck (c : Config) (v : Toml) : Option Config := do
  let fields ← fieldsOf? ["ie_wait_ms"] v
  let [wait] := fields | none
  return { c with
    waitLimit := ← orDefault c.waitLimit (fun v => (below? (2 ^ 64) v).map .ofNat) wait }

def addSection (c : Config) (add : Config → Toml → Option Config) : Option Toml → Option Config
  | none => some c
  | some v => add c v

def ofEntries? (es : Toml.Entries) : Option Config := do
  let c ← addSection {} addFarm (es.lookup "farm")
  let c ← c.addSection addSmart (es.lookup "smart")
  c.addSection addCheck (es.lookup "check")

def ofString? (s : String) : Option Config := (Toml.Reader.ofString? s).bind ofEntries?

def line (key value : String) : String := key ++ " = " ++ value

def lines (c : Config) : List String :=
  ["[farm]", line "output_dir" (Toml.Quoted.encode c.outputDirectory),
    line "copy_source" (Toml.Quoted.encode c.copy.name),
    line "transfer_hint" (Text.decimal c.hint.toNat), "", "[smart]",
    line "mode" (Toml.Quoted.encode c.view.name)] ++
  (match c.family with
    | some family => [line "family" (Toml.Quoted.encode family.name)]
    | none => []) ++
  ["", "[check]", line "ie_wait_ms" (Text.decimal c.waitLimit.toNat)]

/-- The configuration as text that reads back as itself. -/
def text (c : Config) : String := Text.ofLines c.lines

/-- The current directory, unless another one is named. -/
def outputPath (c : Config) : String :=
  if (Text.trim c.outputDirectory).isEmpty then "." else c.outputDirectory

def checkOptions (c : Config) : Check.Options :=
  ⟨min c.waitLimit.toNat Check.Scsi.longestWait⟩

end Config
end DriveHealth
