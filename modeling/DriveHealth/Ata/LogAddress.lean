/-!
The addresses of the logs of an ATA drive, and their names.
-/
namespace DriveHealth.Ata.LogAddress

def names : List (UInt8 × String) :=
  [(0x00, "Log Directory"),
   (0x01, "Summary SMART Error Log"),
   (0x02, "Comprehensive SMART Error Log"),
   (0x03, "Extended Comprehensive SMART Error Log"),
   (0x04, "Device Statistics"),
   (0x05, "CFA"),
   (0x06, "SMART Self-Test Log"),
   (0x07, "Extended SMART Self-Test Log"),
   (0x08, "Power Conditions"),
   (0x09, "Selective Self-Test Log"),
   (0x0A, "Device Statistics Notification"),
   (0x0C, "Pending Defects"),
   (0x0D, "LPS Mis-alignment"),
   (0x0F, "Sense Data For Successful NCQ Commands"),
   (0x10, "NCQ Command Error"),
   (0x11, "SATA Phy Event Counters"),
   (0x12, "SATA NCQ Queue Management"),
   (0x13, "SATA NCQ Send and Receive"),
   (0x14, "Hybrid Information"),
   (0x15, "Rebuild Assist"),
   (0x18, "Command Duration Limits"),
   (0x19, "LBA Status"),
   (0x20, "Streaming Performance"),
   (0x21, "Write Stream Error"),
   (0x22, "Read Stream Error"),
   (0x24, "Current Device Internal Status Data"),
   (0x25, "Saved Device Internal Status Data"),
   (0x2F, "Sector Configuration"),
   (0x30, "IDENTIFY DEVICE Data"),
   (0x47, "Concurrent Positioning Ranges"),
   (0x53, "Sense Data"),
   (0x59, "Power Consumption Control"),
   (0x61, "Capacity/Model Number Mapping"),
   (0xE0, "SCT Command/Status"),
   (0xE1, "SCT Data Transfer")]

def name (address : UInt8) : String :=
  match names.lookup address with
  | some n => n
  | none =>
    if 0x80 ≤ address && address ≤ 0x9F then "Host Specific"
    else if 0xA0 ≤ address && address ≤ 0xDF then "Device Vendor Specific"
    else "Reserved"

end DriveHealth.Ata.LogAddress
