import DriveHealth.Attribute.Read
import DriveHealth.Attribute.Trip
import DriveHealth.Check.Scsi

/-!
The health of an ATA drive: what its SMART status says, or else the copy of that in its SCT
status, and which attributes have tripped. When neither decides and the drive sits behind a
bridge that speaks SCSI, the bridge is asked.
-/
namespace DriveHealth.Check.Ata

open Transport

def sctVersion : UInt16 := 3

/-- Where the SCT status repeats the two signature bytes. -/
def sctSignature : Nat := 214

def signature? (mid high : UInt8) : Option CheckStatus :=
  if mid = 0x4F ∧ high = 0xC2 then some .pass
  else if mid = 0xF4 ∧ high = 0x2C then some .fail
  else none

def sctStatus? (page : Bytes) : Option CheckStatus :=
  if page.le16 0 < sctVersion then none
  else signature? (page.byteAt sctSignature) (page.byteAt (sctSignature + 1))

def askSct (d : Drive) : Session (Option (CheckStatus × StatusSource)) :=
  if d.features.sctSupported then
    (Session.sctStatus (.zeros sector)).bind fun r =>
      match r with
      | .ok page => .done ((sctStatus? page).map fun s => (s, .sctStatus))
      | .error _ => .done none
  else .done none

def returned? (r : Except TransportError TaskFile) : Option CheckStatus :=
  match r with
  | .ok t => signature? t.lbaMid t.lbaHigh
  | .error _ => none

/-- What the drive says of itself, with the source it was read from. -/
def deviceStatus (d : Drive) : Session (Option (CheckStatus × StatusSource)) :=
  Session.returnStatus.bind fun r =>
    match returned? r with
    | some s => .done (some (s, .returnStatus))
    | none => askSct d

def statusReason : StatusSource → String
  | .returnStatus => "SMART return status reports a threshold exceeded condition"
  | .sctStatus => "SCT status reports a threshold exceeded condition"

def statusTrip (source : StatusSource) : Trip := ⟨.ata, .status source, statusReason source⟩

def ofDeviceStatus : Option (CheckStatus × StatusSource) → CheckResult
  | some (.fail, source) => .tripped .fail (statusTrip source)
  | some (s, _) => .ofStatus s
  | none => .ofStatus .unknown

/-- Joins what the drive says with what its attributes say. -/
def combine (family : VendorFamily) (device : CheckResult) (table : Attribute.Table) :
    CheckResult :=
  match table.worstTrip? family with
  | some (.fail, trip) => .tripped .fail trip
  | some (s, trip) => if device.status = .fail then device else .tripped s trip
  | none =>
    if device.status = .unknown ∧ table.thresholdsLoaded then .ofStatus .pass else device

def checkSmart (d : Drive) : Session CheckResult :=
  if d.features.smartEnabled then
    (deviceStatus d).bind fun s =>
      (Attribute.Table.read d.features).bind fun r =>
        match r with
        | .ok table => .done (combine d.family (ofDeviceStatus s) table)
        | .error _ => .done (ofDeviceStatus s)
  else .done (.ofStatus .notSupported)

def undecided (s : CheckStatus) : Bool := s == .unknown || s == .notSupported

/-- Whether SCSI commands can reach the drive and are worth trying. -/
def bridged (d : Drive) : Bool := !d.attachment.isIde && d.hasScsiView

def check (d : Drive) (options : Options) : Session CheckResult :=
  (checkSmart d).bind fun result =>
    if undecided result.status && bridged d then
      (Scsi.check options).bind fun asked =>
        .done (if undecided asked.status then result else asked)
    else .done result

end DriveHealth.Check.Ata
