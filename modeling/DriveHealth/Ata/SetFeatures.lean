import DriveHealth.Text.Layout

/-!
The subcommands of SET FEATURES. Most are known by number alone, and some read the count register
too.
-/
namespace DriveHealth.Ata.SetFeatures

def names : List (UInt8 × String) :=
  [(0x01, "Enable 8-bit PIO"),
   (0x02, "Enable Volatile Write Cache"),
   (0x04, "Enable All Automatic Defect Reassignment"),
   (0x06, "Enable Power-Up In Standby"),
   (0x07, "Power-Up In Standby Device Spin-Up"),
   (0x0A, "Enable CFA Power Mode 1"),
   (0x0C, "Enable Device Life Control"),
   (0x20, "Set Time-Limited R/W - Read Command Error"),
   (0x21, "Set Time-Limited R/W - Write Command Error"),
   (0x31, "Disable Media Status Notification"),
   (0x33, "Disable Retry"),
   (0x41, "Enable Free-Fall Control"),
   (0x43, "Set Maximum Host Interface Sector Times"),
   (0x44, "Vendor Specific ECC Length"),
   (0x45, "Set Rate Basis"),
   (0x4A, "Extended Power Conditions"),
   (0x55, "Disable Read Look-Ahead"),
   (0x5D, "Enable Release Interrupt"),
   (0x5E, "Enable Service Interrupt"),
   (0x62, "Long Physical Sector Alignment Error Reporting"),
   (0x66, "Disable Reverting To Power-On Defaults"),
   (0x77, "Disable ECC"),
   (0x81, "Disable 8-bit PIO"),
   (0x82, "Disable Volatile Write Cache"),
   (0x84, "Disable All Automatic Defect Reassignment"),
   (0x85, "Disable APM"),
   (0x86, "Disable Power-Up In Standby"),
   (0x88, "Disable ECC"),
   (0x8A, "Disable CFA Power Mode 1"),
   (0x8B, "Disable Write-Read-Verify"),
   (0x8C, "Disable Device Life Control"),
   (0x95, "Enable Media Status Notification"),
   (0x99, "Enable Retries"),
   (0xAA, "Enable Read Look-Ahead"),
   (0xBB, "4 Bytes Of ECC"),
   (0xC1, "Disable Free-Fall Control"),
   (0xC2, "Disable AAM"),
   (0xCC, "Enable Reverting To Power-On Defaults"),
   (0xDD, "Disable Release Interrupt"),
   (0xDE, "Disable Service Interrupt")]

def sataNames : List (UInt8 × String) :=
  [(0x01, "Non-Zero Buffer Offsets"),
   (0x02, "DMA Setup FIS Auto-Activate"),
   (0x03, "Device-Initiated Interface Power State Transitions"),
   (0x04, "Guaranteed In-Order Data Delivery"),
   (0x05, "Asynchronous Notification"),
   (0x06, "Software Settings Preservation"),
   (0x07, "Device Automatic Partial To Slumber Transitions"),
   (0x08, "Hardware Feature Control"),
   (0x09, "Device Sleep"),
   (0x0A, "Hybrid Information"),
   (0x0B, "Power Disable")]

def sataName (count : UInt8) : String := (sataNames.lookup count).getD "Reserved SATA Feature"

def transferMode (count : UInt8) : String :=
  let n := count.toNat
  if n = 0 then "PIO Default Mode"
  else if n = 1 then "PIO Default Mode, IORDY Disabled"
  else if 0x08 ≤ n ∧ n ≤ 0x0F then s!"PIO Mode {n % 8}"
  else if 0x20 ≤ n ∧ n ≤ 0x27 then s!"Multiword DMA Mode {n % 8}"
  else if 0x40 ≤ n ∧ n ≤ 0x47 then s!"Ultra DMA Mode {n % 8}"
  else "Reserved Transfer Mode " ++ Text.hexCaps 2 n ++ "h"

def powerCondition (lba : Nat) (count : UInt8) : String :=
  let value := " " ++ Text.hexCaps 2 count.toNat ++ "h"
  match lba % 16 with
  | 0x0 => "Restore Power Condition Settings"
  | 0x1 => "Go To Power Condition" ++ value
  | 0x2 => "Set Power Condition Timer" ++ value
  | 0x3 => "Set Power Condition State" ++ value
  | 0x4 => "Enable EPC"
  | 0x5 => "Disable EPC"
  | 0x6 => "Set EPC Power Source"
  | other => "Reserved EPC Subcommand " ++ Text.hexUpper other ++ "h"

def statisticsNotification (count : UInt8) : String :=
  if count = 1 then "Enable Device Statistics Notification"
  else if count = 2 then "Disable Device Statistics Notification"
  else "Device Statistics Notification - Reserved Value " ++ Text.hexCaps 2 count.toNat ++ "h"

def switched (count : UInt8) (what : String) : String :=
  (if count.toNat % 2 = 1 then "Enable " else "Disable ") ++ what

def name (subcommand count : UInt8) : String :=
  let level := Text.hexCaps 2 count.toNat ++ "h"
  let number := Text.hexCaps 2 subcommand.toNat ++ "h"
  match names.lookup subcommand with
  | some n => n
  | none =>
    if subcommand = 0x03 then "Set Transfer Mode - " ++ transferMode count
    else if subcommand = 0x05 then "Enable APM - Level: " ++ level
    else if subcommand = 0x0B then "Enable Write-Read-Verify - Mode: " ++ level
    else if subcommand = 0x10 then "Enable SATA Feature - " ++ sataName count
    else if subcommand = 0x42 then "Enable AAM - Level: " ++ level
    else if subcommand = 0x63 then statisticsNotification count
    else if subcommand = 0x90 then "Disable SATA Feature - " ++ sataName count
    else if subcommand = 0x9A then
      "Set Device Maximum Average Current - " ++ Text.decimal (4 * count.toNat) ++ " mA"
    else if subcommand = 0xAB then
      "Set Maximum Prefetch - " ++ Text.decimal count.toNat ++ " sectors"
    else if subcommand = 0xC3 then switched count "Sense Data Reporting"
    else if subcommand = 0xC4 then
      switched count "Sense Data Return For Successful NCQ Commands"
    else if 0xF0 ≤ subcommand then "CFA Reserved Feature " ++ number
    else if 0xE0 ≤ subcommand then "Vendor Specific Feature " ++ number
    else "Reserved Feature " ++ number

end DriveHealth.Ata.SetFeatures
