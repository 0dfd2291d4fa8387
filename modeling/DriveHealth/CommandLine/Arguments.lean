import DriveHealth.Attribute.Report
import DriveHealth.Farm.Dataset
import DriveHealth.Number.Digits

/-!
The arguments of the command line. A command follows the options that every command has; its own
options and its one path follow in any order, and behind two dashes everything is a path. An
option that takes a value is given once, and the value follows it or an equals sign. Whatever
does not fit is refused.
-/
namespace DriveHealth.CommandLine

inductive Command where
  | farm (path : String) (out : Option String) (copy : Option Farm.Copy) (hint : Option UInt32)
  | attributes (path : String) (view : Option Attribute.View) (family : Option VendorFamily)
  | errors (path : String)
  | check (path : String) (family : Option VendorFamily)
  | farmInfo (path : String)
  | config
  deriving DecidableEq, Inhabited

structure Invocation where
  command : Command
  /-- Whether results are printed as JSON. -/
  json : Bool
  deriving DecidableEq, Inhabited

/-- What has been read of the arguments of a command. -/
structure Arguments where
  paths : List String := []
  values : List (String × String) := []
  json : Bool := false

namespace Arguments

/-- The name of a long option, and the value after its equals sign. -/
def splitLong (s : List Char) : String × Option String :=
  let name := String.ofList (s.takeWhile (· != '='))
  match s.dropWhile (· != '=') with
  | '=' :: value => (name, some (.ofList value))
  | _ => (name, none)

def looksLikeOption : List Char → Bool
  | '-' :: _ :: _ => true
  | _ => false

/-- An option without a value, that every command has. JSON may be asked for once. -/
def addFlag (a : Arguments) (name : String) : Option Arguments :=
  if name = "json" then if a.json then none else some { a with json := true }
  else if name = "verbose" then some a
  else none

def addShort (a : Arguments) (letters : List Char) : Option Arguments :=
  if letters.all (· == 'v') then some a else none

def addValue (a : Arguments) (name value : String) : Option Arguments :=
  if (a.values.lookup name).isSome then none
  else some { a with values := a.values ++ [(name, value)] }

/-- The next argument, if no option waits for its value; answers an option that now waits. -/
def addOne (valued : List String) (a : Arguments) (arg : List Char) :
    Option (Arguments × Option String) :=
  match arg with
  | '-' :: '-' :: long =>
    let (name, value) := splitLong long
    if valued.contains name then
      match value with
      | some v => (a.addValue name v).map fun a => (a, none)
      | none => some (a, some name)
    else if value.isSome then none
    else (a.addFlag name).map fun a => (a, none)
  | '-' :: c :: letters => (a.addShort (c :: letters)).map fun a => (a, none)
  | _ => some ({ a with paths := a.paths ++ [.ofList arg] }, none)

/-- Reads arguments, with the option that waits for its value. -/
def read (valued : List String) : Option String → Arguments → List String → Option Arguments
  | none, a, [] => some a
  | some _, _, [] => none
  | some name, a, arg :: rest =>
    if looksLikeOption arg.toList then none
    else (a.addValue name arg).bind fun a => read valued none a rest
  | none, a, arg :: rest =>
    if arg = "--" then some { a with paths := a.paths ++ rest }
    else
      match a.addOne valued arg.toList with
      | some (a, pending) => read valued pending a rest
      | none => none

/-- The one path, which may not be empty. -/
def path? (a : Arguments) : Option String :=
  match a.paths with
  | [path] => if path.isEmpty then none else some path
  | _ => none

/-- The value of an option, if it is given; it must be right then. -/
def value? {α : Type} (a : Arguments) (name : String) (parse : String → Option α) :
    Option (Option α) :=
  match a.values.lookup name with
  | none => some none
  | some v => (parse v).map some

end Arguments

def nonempty? (s : String) : Option String := if s.isEmpty then none else some s

/-- A decimal number with an optional sign that fits 32 bits. -/
def word? (s : String) : Option UInt32 :=
  let digits :=
    match s.toList with
    | '+' :: r => r
    | '-' :: r => r
    | r => r
  let n := Number.digitsValue digits
  if digits.isEmpty || !digits.all Number.isDigit || 2 ^ 32 ≤ n then none
  else if s.startsWith "-" && n != 0 then none
  else some (.ofNat n)

namespace Command

def valuedOptions : String → List String
  | "farm" => ["out", "copy", "xfer"]
  | "attributes" => ["mode", "family"]
  | "check" => ["family"]
  | _ => []

def family? (a : Arguments) : Option (Option VendorFamily) :=
  a.value? "family" fun s => (VendorFamily.parse s).toOption

def ofArguments? (name : String) (a : Arguments) : Option Command :=
  match name with
  | "farm" => do
    let path ← a.path?
    let out ← a.value? "out" nonempty?
    let copy ← a.value? "copy" fun s => (Farm.Copy.parse s).toOption
    return farm path out copy (← a.value? "xfer" word?)
  | "attributes" => do
    let path ← a.path?
    let view ← a.value? "mode" fun s => (Attribute.View.parse s).toOption
    return attributes path view (← family? a)
  | "errors" => a.path?.map errors
  | "check" => do
    let path ← a.path?
    return check path (← family? a)
  | "farm-info" => a.path?.map farmInfo
  | "config" => if a.paths.isEmpty then some config else none
  | _ => none

end Command

namespace Invocation

def ofCommand? (json : Bool) (name : String) (args : List String) : Option Invocation := do
  let a ← Arguments.read (Command.valuedOptions name) none {} args
  let command ← Command.ofArguments? name a
  return ⟨command, json || a.json⟩

/-- Reads the options in front of the command. -/
def read (a : Arguments) : List String → Option Invocation
  | [] => none
  | arg :: rest =>
    if Arguments.looksLikeOption arg.toList then
      if arg = "--" then none
      else
        match a.addOne [] arg.toList with
        | some (a, _) => read a rest
        | none => none
    else ofCommand? a.json arg rest

def ofArguments? (args : List String) : Option Invocation := read {} args

end Invocation
end DriveHealth.CommandLine
