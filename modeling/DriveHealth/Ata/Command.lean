import DriveHealth.Ata.Command.Management
import DriveHealth.Ata.Command.Smart
import DriveHealth.Ata.Timer

/-!
The text of an ATA command: a data command by its name, address and count, a few commands by
their name alone, and the rest by what their registers ask for.
-/
namespace DriveHealth.Ata.Command

/-- Commands that their opcode tells all about. -/
def names : List (Opcode × String) :=
  [(0x03, "CFA Request Extended Error Code"),
   (0x08, "Device Reset"),
   (0x0B, "Request Sense Data Ext"),
   (0x27, "Read Native Max Address Ext"),
   (0x50, "Format Track"),
   (0x87, "CFA Translate Sector"),
   (0x90, "Execute Device Diagnostic"),
   (0x94, "Standby Immediate (legacy)"),
   (0x95, "Idle Immediate (legacy)"),
   (0x98, "Check Power Mode (legacy)"),
   (0x99, "Sleep (legacy)"),
   (0x9A, "Vendor Specific Command 9Ah"),
   (0xA0, "Packet"),
   (0xA1, "Identify Packet Device"),
   (0xA2, "Service"),
   (0xC0, "CFA Erase Sectors"),
   (0xD1, "Check Media Card Type"),
   (0xDA, "Get Media Status"),
   (0xDB, "Acknowledge Media Change"),
   (0xDC, "Boot - Post-Boot"),
   (0xDD, "Boot - Pre-Boot"),
   (0xDE, "Media Lock"),
   (0xDF, "Media Unlock"),
   (0xE0, "Standby Immediate"),
   (0xE4, "Read Buffer"),
   (0xE5, "Check Power Mode"),
   (0xE6, "Sleep"),
   (0xE7, "Flush Cache"),
   (0xE8, "Write Buffer"),
   (0xE9, "Read Buffer DMA"),
   (0xEA, "Flush Cache Ext"),
   (0xEB, "Write Buffer DMA"),
   (0xEC, "Identify Device"),
   (0xED, "Media Eject"),
   (0xEE, "Identify Device DMA"),
   (0xF1, "Security Set Password"),
   (0xF2, "Security Unlock"),
   (0xF3, "Security Erase Prepare"),
   (0xF4, "Security Erase Unit"),
   (0xF5, "Security Freeze Lock"),
   (0xF6, "Security Disable Password"),
   (0xF8, "Read Native Max Address")]

def vendorSpecific (c : Opcode) : String :=
  "Vendor Specific Command " ++ Text.hexCaps 2 c.toNat ++ "h"

def initializeParameters (r : Registers) : String :=
  s!"Initialize Device Parameters - Heads: {r.head + 1} Sectors Per Track: {r.countLow}"

def idleImmediate (r : Registers) : String :=
  if r.featuresLow = 0x44 ∧ r.lba = 0x554E4C then "Idle Immediate - Unload"
  else "Idle Immediate"

def sectorConfiguration (r : Registers) : String :=
  "Set Sector Configuration Ext - Command Check: " ++ Text.hexCaps 4 r.features.toNat ++
    s!"h Descriptor Index: {r.count.toNat % 8}"

/-- Opcodes that come in ranges, and those that no standard defines. -/
def byRange (r : Registers) : String :=
  let c := r.command
  if Opcode.isRecalibrate c then "Recalibrate"
  else if Opcode.between 0x70 0x7F c then seek r
  else if Opcode.between 0x80 0x8F c || Opcode.between 0xF0 0xFF c then vendorSpecific c
  else "Unknown Command " ++ Text.hexCaps 2 c.toNat ++ "h"

def byRegisters (r : Registers) : String :=
  match r.command.toNat with
  | 0x00 => if r.featuresLow = 1 then "NOP - Auto Poll" else "NOP"
  | 0x06 => dataSetManagement "Data Set Management" r
  | 0x07 => dataSetManagement "Data Set Management XL" r
  | 0x12 => if r.count = 0 then byRange r else elementStatus r
  | 0x2F => log "Read Log Ext" r
  | 0x37 => s!"Set Max Address Ext - Max LBA: {r.lba}"
  | 0x3F => log "Write Log Ext" r
  | 0x45 => writeUncorrectable r
  | 0x47 => log "Read Log DMA Ext" r
  | 0x4A => zoneIn r
  | 0x51 => s!"Configure Stream - Stream ID: {r.streamId}"
  | 0x57 => log "Write Log DMA Ext" r
  | 0x5B => trustedNonData r
  | 0x5C => trusted "Trusted Receive" r
  | 0x5D => trusted "Trusted Receive DMA" r
  | 0x5E => trusted "Trusted Send" r
  | 0x5F => trusted "Trusted Send DMA" r
  | 0x60 => queued "Read FPDMA Queued" r
  | 0x61 => queued "Write FPDMA Queued" r
  | 0x63 => queuedNonData r
  | 0x64 => queuedSend r
  | 0x65 => queuedReceive r
  | 0x91 => initializeParameters r
  | 0x92 => microcode "Download Microcode" r
  | 0x93 => microcode "Download Microcode DMA" r
  | 0x96 => "Standby (legacy) - Timer: " ++ Timer.period r.countLow
  | 0x97 => "Idle (legacy) - Timer: " ++ Timer.period r.countLow
  | 0x9F => zoneOut r
  | 0xB0 => Smart.text r
  | 0xB1 => "Device Configuration Overlay - " ++ configurationOverlay r.featuresLow
  | 0xB2 => sectorConfiguration r
  | 0xB4 => sanitize r
  | 0xB6 => "NV Cache - " ++ cacheSubcommand r.features.toNat
  | 0xC6 => s!"Set Multiple Mode - Sectors Per Block: {r.countLow}"
  | 0xE1 => idleImmediate r
  | 0xE2 => "Standby - Timer: " ++ Timer.period r.countLow
  | 0xE3 => "Idle - Timer: " ++ Timer.period r.countLow
  | 0xEF => setFeatures r
  | 0xF9 => setMaxAddress r
  | _ => byRange r

def text (r : Registers) : String :=
  match r.command.dataName? with
  | some name => transfer name r
  | none =>
    match names.lookup r.command with
    | some name => name
    | none => byRegisters r

end DriveHealth.Ata.Command
