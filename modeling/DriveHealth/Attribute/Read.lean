import DriveHealth.Attribute.Table
import DriveHealth.Drive
import DriveHealth.Transport.Request

/-!
Reading the attribute table of an ATA drive. Without its threshold page the table is still read,
and none of its attributes has a threshold.
-/
namespace DriveHealth.Attribute.Table

def readThresholds : Session (Option Bytes) :=
  (Session.smartReadThresholds (.zeros pageLength)).bind fun r =>
    match r with
    | .ok page => .done (some page)
    | .error _ => .done none

def readPages : Session (Except Error Table) :=
  (Session.smartReadData (.zeros pageLength)).bind fun r =>
    match r with
    | .error e => .done (.error (.transport e))
    | .ok data => readThresholds.bind fun thresholds => .done (ofPages data thresholds)

def read (features : AtaFeatures) : Session (Except Error Table) :=
  if features.smartEnabled then readPages
  else if features.smartSupported then
    .done (.error (.notSupported "SMART is disabled on this device"))
  else .done (.error (.notSupported "SMART is not supported by this device"))

end DriveHealth.Attribute.Table
