import DriveHealth.Ata.Registers
import DriveHealth.Ata.SetFeatures

/-!
The texts of commands that configure, secure, update or erase the drive.
-/
namespace DriveHealth.Ata.Command

def microcode (name : String) (r : Registers) : String :=
  let blocks := s!" Block Count: {r.blockCount}"
  let offset := s!" Buffer Offset: {r.lbaMidHigh}"
  match r.featuresLow with
  | 0x01 => name ++ " - Temporary (obsolete)" ++ blocks
  | 0x03 => name ++ " - Download with offsets and save" ++ blocks ++ offset
  | 0x07 => name ++ " - Download and save" ++ blocks
  | 0x0E => name ++ " - Download with offsets and save for future activation" ++ blocks ++ offset
  | 0x0F => name ++ " - Activate deferred microcode"
  | other => name ++ " - Reserved Subcommand " ++ Text.hexCaps 2 other ++ "h"

def securityProtocols : List (Nat × String) :=
  [(0x00, "Security Protocol Information"),
   (0x07, "CbCS"),
   (0x20, "Tape Data Encryption"),
   (0x21, "Data Encryption Configuration"),
   (0x40, "SA Creation Capabilities"),
   (0x41, "IKEv2-SCSI"),
   (0xE9, "SD Card TrustedFlash"),
   (0xEA, "IEEE 1667"),
   (0xEC, "JEDEC UFS"),
   (0xED, "SD Card Security"),
   (0xEE, "Authentication in Host Attachments of Transient Storage Devices"),
   (0xEF, "ATA Device Server Password Security")]

def securityProtocol (n : Nat) : String :=
  match securityProtocols.lookup n with
  | some name => name
  | none =>
    if 0x01 ≤ n ∧ n ≤ 0x06 then "TCG" else if 0xF0 ≤ n then "Vendor Specific" else "Reserved"

def trustedStart (name : String) (r : Registers) : String :=
  name ++ " - Protocol: " ++ Text.hexCaps 2 r.featuresLow ++ "h (" ++
    securityProtocol r.featuresLow ++ ") Specific: " ++ Text.hexCaps 4 r.lbaMidHigh ++ "h "

def trusted (name : String) (r : Registers) : String :=
  trustedStart name r ++ s!"Transfer Length: {r.blockCount}"

def trustedNonData (r : Registers) : String :=
  trustedStart "Trusted Non-Data" r ++ (if r.lba.testBit 24 then "Receive" else "Send")

def configurationOverlay : Nat → String
  | 0xC0 => "Restore"
  | 0xC1 => "Freeze Lock"
  | 0xC2 => "Identify"
  | 0xC3 => "Set"
  | 0xC4 => "Identify DMA"
  | 0xC5 => "Set DMA"
  | _ => "Reserved Subcommand"

def setMaxAddress (r : Registers) : String :=
  match r.featuresLow with
  | 0x00 =>
    s!"Set Max Address - Max LBA: {r.lba28}" ++
      (if r.countLow % 2 = 0 then " (volatile)" else "")
  | 0x01 => "Set Max Set Password"
  | 0x02 => "Set Max Lock"
  | 0x03 => "Set Max Unlock"
  | 0x04 => "Set Max Freeze Lock"
  | other => "Set Max Address - Reserved Subcommand " ++ Text.hexCaps 2 other ++ "h"

def cacheSubcommand : Nat → String
  | 0x0000 => "Set NV Cache Power Mode"
  | 0x0001 => "Return From NV Cache Power Mode"
  | 0x0010 => "Add LBAs To NV Cache Pinned Set"
  | 0x0011 => "Remove LBAs From NV Cache Pinned Set"
  | 0x0012 => "Query NV Cache Pinned Set"
  | 0x0013 => "Query NV Cache Misses"
  | 0x0014 => "Flush NV Cache"
  | 0x0015 => "NV Cache Enable"
  | 0x0016 => "NV Cache Disable"
  | _ => "Reserved Subcommand"

/-- Every step that cannot be undone carries letters of its name in its address. -/
def sanitizeStep (name : String) (key letters : Nat) : String :=
  "Sanitize Device - " ++ name ++ (if key = letters then "" else " (invalid signature)")

def sanitize (r : Registers) : String :=
  let lower := r.lba % 2 ^ 32
  match r.features.toNat with
  | 0x0000 =>
    "Sanitize Device - Sanitize Status Ext" ++
      (if r.count.toNat % 2 = 1 then " Clear Sanitize Operation Failed" else "")
  | 0x0011 => sanitizeStep "Crypto Scramble Ext" lower 0x43727970
  | 0x0012 => sanitizeStep "Block Erase Ext" lower 0x426B4572
  | 0x0014 =>
    let passes := if r.count.toNat % 16 = 0 then 16 else r.count.toNat % 16
    sanitizeStep "Overwrite Ext" (r.lba / 2 ^ 32 % 65536) 0x4F57 ++ " Pattern: " ++
      Text.hexCaps 8 lower ++ s!"h Passes: {passes}"
  | 0x0020 => sanitizeStep "Sanitize Freeze Lock Ext" lower 0x46724C6B
  | 0x0040 => sanitizeStep "Sanitize Antifreeze Lock Ext" lower 0x416E7469
  | other => "Sanitize Device - Reserved Subcommand " ++ Text.hexCaps 4 other ++ "h"

def setFeatures (r : Registers) : String :=
  let count : UInt8 := .ofNat r.countLow
  if r.featuresLow = 0x4A then
    "Set Features - Extended Power Conditions - " ++ SetFeatures.powerCondition r.lba count
  else "Set Features - " ++ SetFeatures.name (.ofNat r.featuresLow) count

end DriveHealth.Ata.Command
