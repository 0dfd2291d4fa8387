import DriveHealth.Ata.LogAddress
import DriveHealth.Ata.Registers
import DriveHealth.Ata.SetFeatures

/-!
The texts of commands that move or address user data, logs and zones, queued commands among them.
-/
namespace DriveHealth.Ata.Command

open Registers

def transfer (name : String) (r : Registers) : String :=
  let text := name ++ " - " ++ r.address ++ " Count: " ++ Text.decimal r.sectorCount
  if r.command.isStreaming then text ++ " Stream ID: " ++ Text.decimal r.streamId else text

def dataSetManagement (name : String) (r : Registers) : String :=
  name ++ (if r.features.toNat % 2 = 1 then " - TRIM Blocks: " else " - Blocks: ") ++
    Text.decimal r.count.toNat

def uncorrectableMode : Nat → String
  | 0x55 => "Pseudo Uncorrectable"
  | 0xAA => "Flagged Uncorrectable"
  | 0x5A | 0xA5 => "Vendor Specific"
  | _ => "Reserved"

def writeUncorrectable (r : Registers) : String :=
  "Write Uncorrectable Ext - " ++ uncorrectableMode r.featuresLow ++
    s!" LBA: {r.lba} Count: {r.count.toNat}"

def logName (address : Nat) : String :=
  Text.hexCaps 2 address ++ "h (" ++ LogAddress.name (.ofNat address) ++ ")"

def log (name : String) (r : Registers) : String :=
  name ++ " - Log: " ++ logName r.lbaLow ++ s!" Page: {r.lbaMidHigh} Count: {r.count.toNat}" ++
    " Feature: " ++ Text.hexCaps 4 r.features.toNat ++ "h"

def elementStatus (r : Registers) : String :=
  s!"Get Physical Element Status - Starting Element: {r.lba} Count: {r.count.toNat}" ++
    " Filter: " ++ Text.hexCaps 2 (r.features.toNat / 2 ^ 14) ++ "h Report Type: " ++
    Text.hexUpper (r.featuresHigh % 16) ++ "h"

def queued (name : String) (r : Registers) : String :=
  let priority := r.count.toNat / 2 ^ 14
  name ++ s!" - LBA: {r.lba} Count: {r.features.toNat} Tag: {r.tag}" ++
    (if r.device.toNat.testBit 7 then " FUA" else "") ++
    (if priority = 0 then "" else s!" Priority: {priority}")

def zoneAction : Nat → String
  | 0x00 => "Report Zones Ext"
  | 0x01 => "Close Zone Ext"
  | 0x02 => "Finish Zone Ext"
  | 0x03 => "Open Zone Ext"
  | 0x04 => "Reset Write Pointers Ext"
  | _ => "Reserved Action"

def zoneIn (r : Registers) : String :=
  let action := r.featuresLow % 32
  if action = 0 then
    s!"Zone Management In - Report Zones Ext Zone LBA: {r.lba} Reporting Options: " ++
      Text.hexCaps 2 (r.featuresHigh % 64) ++ "h"
  else "Zone Management In - " ++ zoneAction action

def zoneOut (r : Registers) : String :=
  "Zone Management Out - " ++ zoneAction (r.featuresLow % 32) ++
    (if r.featuresHigh % 2 = 1 then " All Zones" else "") ++ s!" Zone LBA: {r.lba}"

def queuedNonDataSubcommand (r : Registers) : String :=
  match r.features.toNat % 16 with
  | 0x0 => "Abort NCQ Queue"
  | 0x1 => "Deadline Handling"
  | 0x2 => "Hybrid Demote By Size"
  | 0x3 => "Hybrid Change By LBA Range"
  | 0x4 => "Hybrid Control"
  | 0x5 => "Set Features - " ++ SetFeatures.name (.ofNat r.featuresHigh) (.ofNat r.countLow)
  | 0x6 => s!"Zero Ext - LBA: {r.lba}"
  | 0x7 => "Zone Management Out - " ++ zoneAction (r.featuresHigh % 32)
  | other => "Reserved Subcommand " ++ Text.hexUpper other ++ "h"

def queuedNonData (r : Registers) : String :=
  "NCQ Non-Data - " ++ queuedNonDataSubcommand r ++ s!" Tag: {r.tag}"

def sendSubcommand : Nat → String
  | 0x00 => "Data Set Management"
  | 0x01 => "Hybrid Evict"
  | 0x02 => "Write Log DMA Ext"
  | 0x03 => "Zone Management Out"
  | 0x04 => "Data Set Management XL"
  | _ => "Reserved Subcommand"

def receiveSubcommand : Nat → String
  | 0x01 => "Read Log DMA Ext"
  | 0x02 => "Zone Management In"
  | _ => "Reserved Subcommand"

def queuedBlocks (name subcommand : String) (r : Registers) : String :=
  name ++ " - " ++ subcommand ++ s!" Blocks: {r.features.toNat} Tag: {r.tag}"

def queuedSend (r : Registers) : String :=
  queuedBlocks "Send FPDMA Queued" (sendSubcommand (r.countHigh % 32)) r

def queuedReceive (r : Registers) : String :=
  queuedBlocks "Receive FPDMA Queued" (receiveSubcommand (r.countHigh % 32)) r

/-- Early standards have sixteen opcodes for a seek. Later commands reuse three of them, and are
told by registers that a seek never sets. -/
def seek (r : Registers) : String :=
  let beyond28 := 2 ^ 28 ≤ r.lba
  let access := "Accessible Max Address Configuration - "
  if r.command = 0x77 ∧ beyond28 then s!"Set Date And Time Ext - Timestamp: {r.lba} ms"
  else if r.command = 0x78 ∧ r.features = 1 then
    access ++ s!"Set Accessible Max Address Ext - Max LBA: {r.lba}"
  else if r.command = 0x78 ∧ r.features = 2 then access ++ "Freeze Accessible Max Address Ext"
  else if r.command = 0x78 ∧ r.features = 0 ∧ r.lba = 0 ∧ r.count = 0 ∧ r.lbaMode then
    access ++ "Get Native Max Address Ext"
  else if r.command = 0x7C ∧ (beyond28 ∨ r.features ≠ 0) then
    s!"Remove And Truncate - Requested Max: {r.lba}"
  else "Seek - " ++ r.address

end DriveHealth.Ata.Command
