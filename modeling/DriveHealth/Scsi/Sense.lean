import DriveHealth.Bytes
import DriveHealth.Verdict

/-!
Sense data: the key and the two codes that a SCSI drive reports, in fixed or in descriptor
format, and what the codes of an informational exception say about its health.
-/
namespace DriveHealth.Scsi

structure Sense where
  key : UInt8
  asc : UInt8
  ascq : UInt8
  deriving DecidableEq, Inhabited

namespace Sense

def ofBytes? (b : Bytes) : Option Sense :=
  if b.size = 0 then none
  else
    let format := b.byteAt 0 &&& 0x7F
    if (format = 0x70 ∨ format = 0x71) ∧ 14 ≤ b.size then
      some ⟨b.byteAt 2 &&& 0x0F, b.byteAt 12, b.byteAt 13⟩
    else if (format = 0x72 ∨ format = 0x73) ∧ 4 ≤ b.size then
      some ⟨b.byteAt 1 &&& 0x0F, b.byteAt 2, b.byteAt 3⟩
    else none

def impendingFailure : UInt8 := 0x5D

def warning : UInt8 := 0x0B

def status (asc : UInt8) : CheckStatus :=
  if asc = impendingFailure then .fail else if asc = warning then .warning else .pass

/-- The part of the drive that is going to fail, by the high half of the qualifier. -/
def impendingParts : List String :=
  ["Hardware", "Controller", "Data Channel", "Servo", "Spindle", "Firmware"]

def failureReasons : List String :=
  ["General Hard Drive Failure", "Drive Error Rate Too High", "Data Error Rate Too High",
    "Seek Error Rate Too High", "Too Many Block Reassigns", "Access Times Too High",
    "Start Unit Times Too High", "Channel Parametrics", "Controller Detected",
    "Throughput Performance", "Seek Time Performance", "Spin-Up Retry Count",
    "Drive Calibration Retry Count", "Power Loss Protection Circuit"]

def thresholdSubjects : List String := ["", "Media ", "Logical Unit ", "Spare Area Exhaustion "]

def prefixed (b : UInt8) : String := "0x" ++ Text.hexByte b

def failureText (ascq : UInt8) : String :=
  let n := ascq.toNat
  match thresholdSubjects[n]? with
  | some "Spare Area Exhaustion " => "Spare Area Exhaustion Prediction Threshold Exceeded"
  | some subject => subject ++ "Failure Prediction Threshold Exceeded"
  | none =>
    if n < 0x10 then s!"Failure Prediction Threshold Exceeded (resource {prefixed ascq})"
    else
      match impendingParts[n / 16 - 1]? with
      | some part =>
        part ++ " Impending Failure - " ++
          (failureReasons[n % 16]?).getD "Unknown Failure Reason"
      | none =>
        if n = 0xFF then "Failure Prediction Threshold Exceeded (False)"
        else s!"Vendor Specific Failure Prediction ({prefixed ascq})"

def warningSubjects : List String :=
  ["Specified Temperature Exceeded", "Enclosure Degraded", "Background Self-Test Failed",
    "Background Pre-Scan Detected Medium Error", "Background Medium Scan Detected Medium Error",
    "Non-Volatile Cache Now Volatile", "Degraded Power To Non-Volatile Cache",
    "Power Loss Expected", "Device Statistics Notification Active",
    "High Critical Temperature Limit Exceeded", "Low Critical Temperature Limit Exceeded",
    "High Operating Temperature Limit Exceeded", "Low Operating Temperature Limit Exceeded",
    "High Critical Humidity Limit Exceeded", "Low Critical Humidity Limit Exceeded",
    "High Operating Humidity Limit Exceeded", "Low Operating Humidity Limit Exceeded",
    "Microcode Security At Risk", "Microcode Digital Signature Validation Failure",
    "Physical Element Status Change"]

def warningText (ascq : UInt8) : String :=
  if ascq = 0 then "Warning"
  else "Warning - " ++ (warningSubjects[ascq.toNat - 1]?).getD s!"Unknown ({prefixed ascq})"

def reason (asc ascq : UInt8) : String :=
  if asc = impendingFailure then failureText ascq
  else if asc = warning then warningText ascq
  else if asc = 0 ∧ ascq = 0 then "No Additional Sense Information"
  else "ASC " ++ prefixed asc ++ " ASCQ " ++ prefixed ascq

/-- Codes that tell of no exception pass; the others trip. -/
def verdict (s : Sense) : CheckResult :=
  if status s.asc = .pass then .ofStatus .pass
  else .tripped (status s.asc) ⟨.scsi, .sense s.key s.asc s.ascq, reason s.asc s.ascq⟩

end Sense
end DriveHealth.Scsi
