import DriveHealth.Attribute.RawFormat
import DriveHealth.Drive

/-!
Attribute names and raw formats by vendor family. A family reads its own entries first and then
those it shares with others, so the first entry of an id counts; an id that no entry names has
neither a name nor a format.
-/
namespace DriveHealth.Attribute

structure Naming where
  id : UInt8
  name : String
  format : RawFormat
  deriving DecidableEq, Inhabited

namespace Naming

def seagateDisk : List Naming :=
  [⟨1, "Read Error Rate", .number 5 4⟩,
   ⟨3, "Spin Up Time", .word⟩,
   ⟨4, "Start/Stop Count", .dword⟩,
   ⟨5, "Retired Sectors Count", .dword⟩,
   ⟨7, "Seek Error Rate", .number 5 4⟩,
   ⟨9, "Power On Hours", .dword⟩,
   ⟨10, "Spin Retry Count", .dword⟩,
   ⟨12, "Power Cycle Count", .dword⟩,
   ⟨18, "Head Health Self Assessment", .digits⟩,
   ⟨183, "PHY Counter Events", .dword⟩,
   ⟨184, "IOEDC Count", .dword⟩,
   ⟨187, "Reported Un-correctable", .dword⟩,
   ⟨188, "Command Timeout", .digits⟩,
   ⟨189, "High Fly Writes", .dword⟩,
   ⟨190, "Airflow Temperature", .airflow⟩,
   ⟨191, "Shock Sensor Counter", .dword⟩,
   ⟨192, "Emergency Retract Count", .dword⟩,
   ⟨193, "Load-Unload Count", .dword⟩,
   ⟨194, "Temperature", .currentHighestLowest⟩,
   ⟨195, "ECC On The Fly Count", .dword⟩,
   ⟨197, "Pending-Sparing Count", .dword⟩,
   ⟨198, "Offline Uncorrectable Sectors", .dword⟩,
   ⟨199, "Ultra DMA CRC Error", .dword⟩,
   ⟨200, "Pressure Measurement Limit", .digits⟩,
   ⟨230, "Life Curve Status", .digits⟩,
   ⟨231, "SSD Life Left", .percentage⟩,
   ⟨240, "Head Flight Hours", .dword⟩,
   ⟨241, "Lifetime Writes from Host", .counter⟩,
   ⟨242, "Lifetime Reads from Host", .counter⟩,
   ⟨254, "Free Fall Event", .dword⟩]

def seagateLegacy : List Naming :=
  [⟨1, "Raw Read Error Rate", .dword⟩,
   ⟨7, "Seek Error Rate", .dword⟩,
   ⟨11, "Calibration Retry Count", .dword⟩,
   ⟨194, "Temperature", .currentHighest⟩,
   ⟨196, "Reallocation Event Count", .dword⟩]

def solidState : List Naming :=
  [⟨1, "Raw Read Error Rate", .dword⟩,
   ⟨5, "Retired Block Count", .dword⟩,
   ⟨9, "Power On Hours", .dword⟩,
   ⟨12, "Power Cycle Count", .dword⟩,
   ⟨100, "Flash GB Erased", .counter⟩,
   ⟨102, "Lifetime PS4 Entry Count", .dword⟩,
   ⟨103, "Lifetime PS3 Exit Count", .dword⟩,
   ⟨170, "Grown Bad Block Count", .dword⟩,
   ⟨171, "Program Fail Count", .dword⟩,
   ⟨172, "Erase Fail Count", .dword⟩,
   ⟨173, "Average Program/Erase Count", .word⟩,
   ⟨174, "Unexpected Power Loss Count", .dword⟩,
   ⟨177, "Wear Range Delta", .dword⟩,
   ⟨183, "SATA Downshift Count", .dword⟩,
   ⟨187, "Uncorrectable RAISE Errors", .dword⟩,
   ⟨194, "Temperature", .currentHighest⟩,
   ⟨195, "ECC Rate", .dword⟩,
   ⟨196, "Reallocation Event Count", .dword⟩,
   ⟨199, "SATA CRC Error Count", .dword⟩,
   ⟨201, "Uncorrectable Read Error Rate", .dword⟩,
   ⟨204, "Soft ECC Correction Rate", .dword⟩,
   ⟨230, "Life Curve Status", .digits⟩,
   ⟨231, "SSD Life Left", .percentage⟩,
   ⟨233, "Lifetime Writes to Flash", .unitsGiB⟩,
   ⟨234, "Lifetime Reads from Flash", .unitsGiB⟩,
   ⟨235, "Power Loss Protection Health", .digits⟩,
   ⟨241, "Lifetime Writes from Host", .unitsGiB⟩,
   ⟨242, "Lifetime Reads from Host", .unitsGiB⟩]

def solidStateB : List Naming :=
  [⟨171, "Program Fail Count", .number 5 2⟩,
   ⟨177, "Endurance Remaining", .percentage⟩,
   ⟨241, "Lifetime Writes from Host", .units32MiB⟩,
   ⟨242, "Lifetime Reads from Host", .units32MiB⟩]

def solidStateCD : List Naming :=
  [⟨11, "Power Fail Backup Health", .digits⟩,
   ⟨169, "Remaining Life", .percentage⟩,
   ⟨190, "Airflow Temperature", .nominalWorst⟩,
   ⟨194, "Temperature", .current⟩,
   ⟨202, "Percentage Lifetime Used", .percentage⟩]

def solidStateE : List Naming :=
  [⟨167, "Write Protect Detail", .digits⟩,
   ⟨168, "SATA PHY Error Count", .dword⟩,
   ⟨194, "Temperature", .currentHighestLowest⟩,
   ⟨245, "Lifetime Host Write Pages", .counter⟩]

def solidStateFG : List Naming :=
  [⟨9, "Power On Hours", .number 3 0⟩,
   ⟨175, "Program Fail Count Chip", .dword⟩,
   ⟨176, "Erase Fail Count Chip", .dword⟩,
   ⟨181, "Program Fail Count Total", .dword⟩,
   ⟨182, "Erase Fail Count Total", .dword⟩,
   ⟨231, "SSD Life Left", .percentage⟩]

def solidStateK : List Naming :=
  [⟨173, "Maximum Erase Count", .word⟩,
   ⟨174, "Unexpected Power Loss Count", .dword⟩,
   ⟨194, "Temperature", .nominalWorst⟩,
   ⟨246, "Cumulative Host Sectors Written", .counter⟩,
   ⟨247, "Host Program Page Count", .counter⟩,
   ⟨248, "Background Program Page Count", .counter⟩]

def samsung : List Naming :=
  [⟨5, "Reallocated Sector Count", .dword⟩,
   ⟨9, "Power On Hours", .dword⟩,
   ⟨12, "Power Cycle Count", .dword⟩,
   ⟨177, "Wear Leveling Count", .dword⟩,
   ⟨179, "Used Reserved Block Count", .dword⟩,
   ⟨181, "Program Fail Count", .dword⟩,
   ⟨182, "Erase Fail Count", .dword⟩,
   ⟨183, "Runtime Bad Block", .dword⟩,
   ⟨187, "Uncorrectable Error Count", .dword⟩,
   ⟨190, "Airflow Temperature", .current⟩,
   ⟨194, "Temperature", .currentHighest⟩,
   ⟨195, "ECC Error Rate", .dword⟩,
   ⟨199, "CRC Error Count", .dword⟩,
   ⟨235, "POR Recovery Count", .dword⟩,
   ⟨241, "Total LBAs Written", .counter⟩]

def maxtor : List Naming :=
  [⟨1, "Raw Read Error Rate", .dword⟩,
   ⟨3, "Spin Up Time", .word⟩,
   ⟨4, "Start/Stop Count", .dword⟩,
   ⟨5, "Reallocated Sector Count", .dword⟩,
   ⟨7, "Seek Error Rate", .dword⟩,
   ⟨9, "Power On Hours", .dword⟩,
   ⟨10, "Spin Retry Count", .dword⟩,
   ⟨11, "Calibration Retry Count", .dword⟩,
   ⟨12, "Power Cycle Count", .dword⟩,
   ⟨192, "Power-Off Retract Count", .dword⟩,
   ⟨193, "Load Cycle Count", .dword⟩,
   ⟨194, "Temperature", .current⟩,
   ⟨195, "Hardware ECC Recovered", .dword⟩,
   ⟨196, "Reallocation Event Count", .dword⟩,
   ⟨197, "Current Pending Sector", .dword⟩,
   ⟨198, "Offline Uncorrectable", .dword⟩,
   ⟨199, "UDMA CRC Error Count", .dword⟩,
   ⟨200, "Write Error Rate", .dword⟩,
   ⟨203, "Run Out Cancel", .digits⟩,
   ⟨220, "Disk Shift", .dword⟩,
   ⟨222, "Loaded Hours", .dword⟩,
   ⟨223, "Load Retry Count", .dword⟩,
   ⟨224, "Load Friction", .dword⟩,
   ⟨226, "Load-in Time", .dword⟩]

def generic : List Naming :=
  [⟨1, "Read Error Rate", .dword⟩,
   ⟨4, "Start/Stop Count", .dword⟩,
   ⟨5, "Reallocated Sector Count", .dword⟩,
   ⟨7, "Seek Error Rate", .dword⟩,
   ⟨9, "Power On Hours", .dword⟩,
   ⟨12, "Power Cycle Count", .dword⟩,
   ⟨187, "Reported Uncorrectable Errors", .dword⟩,
   ⟨194, "Temperature", .current⟩,
   ⟨197, "Current Pending Sector Count", .dword⟩]

def ofFamily : VendorFamily → List Naming
  | .seagate => seagateDisk
  | .seagateConner | .seagateQuantum => seagateLegacy ++ seagateDisk
  | .seagateVendorB => solidStateB ++ solidState
  | .seagateVendorC | .seagateVendorD => solidStateCD ++ solidState
  | .seagateVendorE => solidStateE ++ solidState
  | .seagateVendorF | .seagateVendorG => solidStateFG ++ solidState
  | .seagateVendorK => solidStateK ++ solidState
  | .samsung => samsung
  | .maxtor => maxtor
  | .generic => generic

def find? (family : VendorFamily) (id : UInt8) : Option Naming :=
  (ofFamily family).find? fun n => n.id == id

end Naming

def name? (family : VendorFamily) (id : UInt8) : Option String :=
  (Naming.find? family id).map Naming.name

def rawFormat (family : VendorFamily) (id : UInt8) : RawFormat :=
  ((Naming.find? family id).map Naming.format).getD .digits

end DriveHealth.Attribute
