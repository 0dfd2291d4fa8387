import DriveHealth.Attribute.Meanings
import DriveHealth.Attribute.Naming
import DriveHealth.Attribute.Table

/-!
The attribute table as text: with raw digits, with readable values, or explained line by line.
-/
namespace DriveHealth.Attribute

inductive View where
  | raw
  | hybrid
  | analyzed
  deriving DecidableEq, Inhabited

namespace View

def all : List View := [raw, hybrid, analyzed]

def name : View → String
  | raw => "raw"
  | hybrid => "hybrid"
  | analyzed => "analyzed"

def ofName? (s : String) : Option View := all.find? fun v => v.name == s

def parse (s : String) : Except String View :=
  let wanted := (Text.trim s).map Char.toLower
  match ofName? wanted with
  | some v => .ok v
  | none => .error ("unknown render mode '" ++ wanted ++ "'")

end View

/-- One character for the trip state and whether the attribute is under warranty. -/
def marker (a : Attribute) : Char :=
  match a.tripState, a.prefail with
  | .failing, true | .alwaysFailing, true => '!'
  | .failing, false | .alwaysFailing, false => '%'
  | .previouslyFailed, true => '^'
  | .previouslyFailed, false => '~'
  | .ok, true => '*'
  | .ok, false => ' '

/-- The values that are no numbers to compare with have names. -/
def valueToken (v : UInt8) : String :=
  match Threshold.ofByte v with
  | .alwaysPassing => "AP"
  | .alwaysFailing => "AF"
  | .invalid => "INV"
  | .value v => Text.decimal v.toNat

def thresholdSentence : Option UInt8 → String
  | none => "not available"
  | some t =>
    match Threshold.ofByte t with
    | .alwaysPassing => "0 (always passing)"
    | .alwaysFailing => "255 (always failing)"
    | .invalid => "254 (invalid)"
    | .value v => Text.decimal v.toNat

/-- Each flag with what it says when set and when clear; nothing is said by an empty text. -/
def flagTexts : List (UInt16 × String × String) :=
  [(0x0001, "Pre-fail / warranty: a trip means the drive is failing",
      "Advisory: a trip is a warning only"),
   (0x0002, "Updated during normal operation", "Updated only during offline data collection"),
   (0x0004, "Performance related", ""),
   (0x0008, "Error rate", ""),
   (0x0010, "Event counter", ""),
   (0x0020, "Self-preserving", "")]

def flagSentences (f : Flags) : List String :=
  (flagTexts.map fun (bit, set, clear) => if Flags.has f bit then set else clear).filter
    fun s => !s.isEmpty

def displayName (family : VendorFamily) (id : UInt8) : String :=
  (name? family id).getD "Vendor Specific"

def row (mark id name flags nominal worst threshold value : String) : String :=
  mark ++ " " ++ Text.padLeft 3 id ' ' ++ "  " ++ Text.padRight 32 name ++ " " ++
    Text.padLeft 6 flags ' ' ++ "  " ++ Text.padLeft 3 nominal ' ' ++ "  " ++
    Text.padLeft 3 worst ' ' ++ "  " ++ Text.padLeft 3 threshold ' ' ++ "  " ++ value

def heading (value : String) : String :=
  row " " "ID" "Attribute" "Status" "Cur" "Wst" "Thr" value

def rawRow (family : VendorFamily) (a : Attribute) : String :=
  row a.marker.toString (Text.decimal a.id.toNat) (displayName family a.id)
    (Text.hexCaps 4 a.flags.toNat) (Text.decimal a.nominal.toNat) (Text.decimal a.worst.toNat)
    ((a.threshold.map fun t => Text.decimal t.toNat).getD "N/A") (Raw.text a.raw)

/-- A question mark tells that the analyzed view explains the value. -/
def hybridRow (family : VendorFamily) (a : Attribute) : String :=
  row a.marker.toString (Text.decimal a.id.toNat) (displayName family a.id)
    (Text.hexCaps 4 a.flags.toNat) (valueToken a.nominal) (valueToken a.worst)
    ((a.threshold.map valueToken).getD "N/A")
    ((rawFormat family a.id).render a ++
      (if (Meaning.find? family a.id).isSome then " ?" else ""))

def tripLines : TripState → List String
  | .ok => []
  | .failing | .alwaysFailing => ["    ** Threshold tripped **"]
  | .previouslyFailed => ["    Worst value has reached the threshold in the past"]

def analyzedLines (family : VendorFamily) (a : Attribute) : List String :=
  [Text.decimal a.id.toNat ++ " - " ++ displayName family a.id,
    "    Status flags: 0x" ++ Text.hex 4 a.flags.toNat] ++
  (flagSentences a.flags).map ("        " ++ ·) ++
  ["    Current: " ++ Text.decimal a.nominal.toNat,
    "    Worst: " ++ Text.decimal a.worst.toNat,
    "    Threshold: " ++ thresholdSentence a.threshold] ++
  tripLines a.tripState ++
  ["    Raw: " ++ Raw.text a.raw] ++
  ((explain? family a).getD []).map ("    " ++ ·) ++
  [""]

namespace Table

def lines (t : Table) (family : VendorFamily) : View → List String
  | .raw =>
    [heading "Raw"] ++ t.attributes.map (rawRow family) ++
    ["", "* pre-fail/warranty  ! failing (warranty)  % failing  " ++
      "^ previously failed (warranty)  ~ previously failed"]
  | .hybrid =>
    [heading "Value"] ++ t.attributes.map (hybridRow family) ++
    ["", "AP always passing  AF always failing  INV invalid  ? analyzed view available"]
  | .analyzed =>
    t.attributes.flatMap (analyzedLines family) ++
    (if t.checksumValid then [] else ["Warning: SMART data checksum is invalid"])

def text (t : Table) (family : VendorFamily) (view : View) : String :=
  Text.ofLines (t.lines family view)

end Table
end DriveHealth.Attribute
