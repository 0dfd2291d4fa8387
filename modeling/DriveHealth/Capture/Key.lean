import DriveHealth.Text.Layout

/-!
The names of captured pages. Each request reads one kind of page, told apart by addresses; a name
of any other form names a page that no request reads.
-/
namespace DriveHealth.Capture

inductive Key where
  | ataLog (address : UInt8) (feature : UInt16)
  | smartLog (address : UInt8)
  | scsiLog (page subpage : UInt8)
  | scsiMode (page : UInt8) (saved : Bool)
  | nvmeLog (log : UInt8)
  | smartData
  | smartThresholds
  | sctStatus
  | requestSense
  | other (name : String)
  deriving DecidableEq, Inhabited

namespace Key

def text : Key → String
  | ataLog address feature => "ata-log:" ++ Text.hexByte address ++ ":" ++ Text.hex 4 feature.toNat
  | smartLog address => "smart-log:" ++ Text.hexByte address
  | scsiLog page subpage => "scsi-log:" ++ Text.hexByte page ++ ":" ++ Text.hexByte subpage
  | scsiMode page saved =>
    "scsi-mode:" ++ Text.hexByte page ++ ":" ++ (if saved then "saved" else "current")
  | nvmeLog log => "nvme-log:" ++ Text.hexByte log
  | smartData => "smart-data"
  | smartThresholds => "smart-thresholds"
  | sctStatus => "sct-status"
  | requestSense => "request-sense"
  | other name => name

def hexDigit? (c : Char) : Option Nat :=
  if '0' ≤ c && c ≤ '9' then some (c.toNat - 48)
  else if 'a' ≤ c && c ≤ 'f' then some (c.toNat - 87)
  else none

def hexValue (s : String) : Nat :=
  s.toList.foldl (fun n c => 16 * n + (hexDigit? c).getD 0) 0

/-- The key that the parts of a name suggest. -/
def guess (parts : List String) : Option Key :=
  match parts with
  | ["ata-log", a, f] => some (ataLog (.ofNat (hexValue a)) (.ofNat (hexValue f)))
  | ["smart-log", a] => some (smartLog (.ofNat (hexValue a)))
  | ["scsi-log", p, s] => some (scsiLog (.ofNat (hexValue p)) (.ofNat (hexValue s)))
  | ["scsi-mode", p, "saved"] => some (scsiMode (.ofNat (hexValue p)) true)
  | ["scsi-mode", p, "current"] => some (scsiMode (.ofNat (hexValue p)) false)
  | ["nvme-log", l] => some (nvmeLog (.ofNat (hexValue l)))
  | ["smart-data"] => some smartData
  | ["smart-thresholds"] => some smartThresholds
  | ["sct-status"] => some sctStatus
  | ["request-sense"] => some requestSense
  | _ => none

/-- A name counts only in the one spelling that its key has. -/
def ofText (name : String) : Key :=
  match guess (name.splitOn ":") with
  | some k => if k.text = name then k else other name
  | none => other name

end Key
end DriveHealth.Capture
