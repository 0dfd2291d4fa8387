import DriveHealth.Attribute.Naming
import DriveHealth.Attribute.Table
import DriveHealth.Verdict

/-!
From a tripped attribute to a verdict. A tripped attribute under warranty, or one whose threshold
always fails, is a failure, and any other a warning; of several the first most severe one counts.
-/
namespace DriveHealth.Attribute

def label (family : VendorFamily) (id : UInt8) : String :=
  match name? family id with
  | some name => s!"{name} [{id.toNat}]"
  | none => s!"Attribute [{id.toNat}]"

def tripReason (family : VendorFamily) (a : Attribute) (threshold : UInt8) :
    TripState → Option String
  | .ok => none
  | .failing =>
    some (label family a.id ++
      s!" tripped! Current Value {a.nominal.toNat} below Threshold {threshold.toNat}")
  | .previouslyFailed =>
    some (label family a.id ++
      s!" tripped! Worst Ever Value {a.worst.toNat} below Threshold {threshold.toNat}")
  | .alwaysFailing =>
    some (label family a.id ++ " tripped! Threshold is set to always fail")

def tripStatus (a : Attribute) : CheckStatus :=
  if a.tripState == .alwaysFailing || a.prefail then .fail else .warning

def trip? (family : VendorFamily) (a : Attribute) : Option (CheckStatus × Trip) := do
  let threshold ← a.threshold
  let reason ← tripReason family a threshold a.tripState
  let detail := .attribute a.id (name? family a.id) a.nominal a.worst threshold a.prefail
  return (a.tripStatus, ⟨.ata, detail, reason⟩)

/-- The first of the most severe. -/
def mostSevere : List (CheckStatus × Trip) → Option (CheckStatus × Trip)
  | [] => none
  | t :: r =>
    match mostSevere r with
    | none => some t
    | some u => if t.1.severity < u.1.severity then some u else some t

def Table.worstTrip? (family : VendorFamily) (t : Table) : Option (CheckStatus × Trip) :=
  mostSevere (t.attributes.filterMap (trip? family))

end DriveHealth.Attribute
