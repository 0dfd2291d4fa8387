import DriveHealth.Drive
import DriveHealth.Instances
import DriveHealth.Json

/-!
The manifest of a capture: the identity and the capabilities of the drive, how the captured drive
restricts requests, and the file of each captured page. Identity and kind must be given, and the
rest has defaults. A structure may also be given as the list of its fields in order.
-/
namespace DriveHealth.Capture

/-- Requests that the captured drive refuses. -/
structure Restrictions where
  /-- The mode commands of ten bytes are refused. -/
  noModeTen : Bool := false
  /-- A MODE SELECT that is to be saved is refused. -/
  saveRefused : Bool := false
  /-- The length of a log transfer must be a multiple of this, unless it is zero. -/
  alignment : Nat := 0
  deriving DecidableEq, Inhabited

structure Manifest where
  identity : Identity
  kind : DriveKind
  attachment : Attachment := .unknown
  family : VendorFamily := .generic
  farm : FarmCapabilities := {}
  features : AtaFeatures := {}
  /-- The two signature bytes that SMART RETURN STATUS answers. -/
  returnStatus : Option (UInt8 × UInt8) := none
  hasScsiView : Bool := false
  restrictions : Restrictions := {}
  /-- The name of a page and the file that holds it, in the order of the names. -/
  pages : List (String × String) := []
  deriving Inhabited

namespace Manifest

/-- The fields of a structure by name; none may be given twice, and unknown ones are passed over. -/
def namedFields? (names : List String) (fields : List (String × Json)) :
    Option (List (Option Json)) :=
  names.mapM fun name =>
    match fields.filter fun f => f.1 == name with
    | [] => some none
    | [f] => some (some f.2)
    | _ => none

/-- The fields of a structure by place; the last ones may be missing. -/
def placedFields? (names : List String) (items : List Json) : Option (List (Option Json)) :=
  if names.length < items.length then none
  else some (items.map some ++ List.replicate (names.length - items.length) none)

def fieldsOf? (names : List String) : Json → Option (List (Option Json))
  | .object fields => namedFields? names fields
  | .array items => placedFields? names items
  | _ => none

def required {α : Type} (decode : Json → Option α) (field : Option Json) : Option α :=
  field.bind decode

def orDefault {α : Type} (default : α) (decode : Json → Option α) (field : Option Json) :
    Option α :=
  match field with
  | none => some default
  | some v => decode v

/-- A choice is given by its name, or as the only field, without a value, of an object. -/
def choice? {α : Type} (ofName? : String → Option α) : Json → Option α
  | .text s => ofName? s
  | .object [(name, .null)] => ofName? name
  | _ => none

def word? (v : Json) : Option Nat := v.nat?.bind fun n => if n < 2 ^ 64 then some n else none

def byte? (v : Json) : Option UInt8 :=
  v.nat?.bind fun n => if n < 256 then some (.ofNat n) else none

def identity? (v : Json) : Option Identity := do
  let fields ← fieldsOf? ["model", "serial", "firmware"] v
  let [model, serial, firmware] := fields | none
  return ⟨← required Json.text? model, ← required Json.text? serial,
    ← required Json.text? firmware⟩

def flag? (field : Option Json) : Option Bool := orDefault false Json.bool? field

def farm? (v : Json) : Option FarmCapabilities := do
  let fields ← fieldsOf? ["farm", "factory", "time_series", "long_saved", "sticky"] v
  let [farm, factory, series, long, sticky] := fields | none
  return ⟨← flag? farm, ← flag? factory, ← flag? series, ← flag? long, ← flag? sticky⟩

def features? (v : Json) : Option AtaFeatures := do
  let fields ← fieldsOf? ["smart_supported", "smart_enabled", "smart_error_logging",
    "gpl_supported", "sct_supported"] v
  let [supported, enabled, logging, gpl, sct] := fields | none
  return ⟨← flag? supported, ← flag? enabled, ← flag? logging, ← flag? gpl, ← flag? sct⟩

def returnStatus? : Json → Option (Option (UInt8 × UInt8))
  | .null => some none
  | .array [mid, high] => do return some (← byte? mid, ← byte? high)
  | _ => none

def restrictions? (v : Json) : Option Restrictions := do
  let fields ← fieldsOf? ["no_mode_10", "mode_select_save_fails", "dma_alignment"] v
  let [ten, save, alignment] := fields | none
  return ⟨← flag? ten, ← flag? save, ← orDefault 0 word? alignment⟩

/-- Sets a value, and keeps the list in the order of the names. -/
def insertPage (l : List (String × String)) (name file : String) : List (String × String) :=
  match l with
  | [] => [(name, file)]
  | (n, f) :: r =>
    if name = n then (name, file) :: r
    else if name < n then (name, file) :: (n, f) :: r
    else (n, f) :: insertPage r name file

def pages? : Json → Option (List (String × String))
  | .object fields => fields.foldlM (fun l (name, v) => v.text?.map (insertPage l name)) []
  | _ => none

def ofJson? (v : Json) : Option Manifest := do
  let fields ← fieldsOf? ["identity", "kind", "interface", "family", "farm", "ata",
    "return_status", "satl", "quirks", "pages"] v
  let [identity, kind, attachment, family, farm, ata, status, satl, restrictions, pages] := fields
    | none
  return {
    identity := ← required identity? identity
    kind := ← required (choice? DriveKind.ofName?) kind
    attachment := ← orDefault .unknown (choice? Attachment.ofName?) attachment
    family := ← orDefault .generic (choice? VendorFamily.ofName?) family
    farm := ← orDefault {} farm? farm
    features := ← orDefault {} features? ata
    returnStatus := ← orDefault none returnStatus? status
    hasScsiView := ← flag? satl
    restrictions := ← orDefault {} restrictions? restrictions
    pages := ← orDefault [] pages? pages }

def identityJson (i : Identity) : Json :=
  .object
    [("model", .text i.model), ("serial", .text i.serial), ("firmware", .text i.firmware)]

def farmJson (c : FarmCapabilities) : Json :=
  .object
    [("farm", .bool c.farm), ("factory", .bool c.factory), ("time_series", .bool c.timeSeries),
     ("long_saved", .bool c.longSaved), ("sticky", .bool c.sticky)]

def featuresJson (f : AtaFeatures) : Json :=
  .object
    [("smart_supported", .bool f.smartSupported), ("smart_enabled", .bool f.smartEnabled),
     ("smart_error_logging", .bool f.smartErrorLogging),
     ("gpl_supported", .bool f.gplSupported), ("sct_supported", .bool f.sctSupported)]

def restrictionsJson (r : Restrictions) : Json :=
  .object
    [("no_mode_10", .bool r.noModeTen), ("mode_select_save_fails", .bool r.saveRefused),
     ("dma_alignment", .ofNat r.alignment)]

def toJson (m : Manifest) : Json :=
  .object
    [("identity", identityJson m.identity), ("kind", .text m.kind.name),
     ("interface", .text m.attachment.name), ("family", .text m.family.name),
     ("farm", farmJson m.farm), ("ata", featuresJson m.features),
     ("return_status",
        Json.ofOption (fun s => .array [.ofByte s.1, .ofByte s.2]) m.returnStatus),
     ("satl", .bool m.hasScsiView), ("quirks", restrictionsJson m.restrictions),
     ("pages", .object (m.pages.map fun p => (p.1, .text p.2)))]

/-- Transfers are rounded up to a sector when the capture asks for nothing else. -/
def drive (m : Manifest) : Drive :=
  { kind := m.kind
    attachment := m.attachment
    family := m.family
    identity := m.identity
    farm := m.farm
    features := m.features
    dmaAlignment := if m.restrictions.alignment = 0 then 512 else m.restrictions.alignment
    hasScsiView := m.hasScsiView }

end Manifest
end DriveHealth.Capture
