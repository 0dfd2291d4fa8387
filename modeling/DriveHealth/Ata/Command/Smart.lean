import DriveHealth.Ata.Command.Transfer

/-!
The texts of SMART commands. The middle and high bytes of the address carry a signature.
-/
namespace DriveHealth.Ata.Command.Smart

def signature : Nat := 0xC24F

def offlineTest (n : Nat) : String :=
  match n with
  | 0x00 => "Offline Data Collection"
  | 0x01 => "Short Self-Test (offline)"
  | 0x02 => "Extended Self-Test (offline)"
  | 0x03 => "Conveyance Self-Test (offline)"
  | 0x04 => "Selective Self-Test (offline)"
  | 0x7F => "Abort Self-Test"
  | 0x81 => "Short Self-Test (captive)"
  | 0x82 => "Extended Self-Test (captive)"
  | 0x83 => "Conveyance Self-Test (captive)"
  | 0x84 => "Selective Self-Test (captive)"
  | n =>
    if (0x40 ≤ n ∧ n ≤ 0x7E) ∨ 0x90 ≤ n then "Vendor Specific" else "Reserved"

/-- A count that switches something off or on. -/
def switched (what : String) (on count : Nat) : String :=
  if count = 0 then "Disable " ++ what
  else if count = on then "Enable " ++ what
  else what ++ " - Reserved Value " ++ Text.hexCaps 2 count ++ "h"

def log (name : String) (r : Registers) : String :=
  name ++ " Log - Log: " ++ logName r.lbaLow ++ s!" Count: {r.countLow}"

def subcommand (r : Registers) : String :=
  match r.featuresLow with
  | 0xD0 => "Read Data"
  | 0xD1 => "Read Attribute Thresholds"
  | 0xD2 => switched "Attribute Autosave" 0xF1 r.countLow
  | 0xD3 => "Save Attribute Values"
  | 0xD4 => "Execute Offline Immediate - " ++ offlineTest r.lbaLow
  | 0xD5 => log "Read" r
  | 0xD6 => log "Write" r
  | 0xD7 => "Write Attribute Thresholds"
  | 0xD8 => "Enable Operations"
  | 0xD9 => "Disable Operations"
  | 0xDA => "Return Status"
  | 0xDB => switched "Automatic Offline" 0xF8 r.countLow
  | other =>
    (if 0xE0 ≤ other then "Vendor Specific" else "Reserved") ++ " Subcommand " ++
      Text.hexCaps 2 other ++ "h"

def text (r : Registers) : String :=
  if r.lbaMidHigh = signature then "SMART " ++ subcommand r
  else
    "SMART " ++ subcommand r ++ " (invalid signature " ++ Text.hexCaps 4 r.lbaMidHigh ++ "h)"

end DriveHealth.Ata.Command.Smart
