import DriveHealth.Attribute.Meaning
import DriveHealth.Drive

/-!
What the raw bytes of each attribute mean, by vendor family. As with the names, a family reads
its own entries first, and the first entry of an id counts.
-/
namespace DriveHealth.Attribute.Meaning

def seagateDisk : List Meaning :=
  [⟨1, [.count "Operations" 3 0, .count "Errors" 5 4]⟩,
   ⟨3, [.count "Spin up time (ms)" 1 0]⟩,
   ⟨4, [.count "Spindle start/stop cycles" 3 0]⟩,
   ⟨5, [.count "Retired sectors" 3 0]⟩,
   ⟨7, [.count "Seeks" 3 0, .count "Seek errors" 5 4]⟩,
   ⟨9, [.duration "Power on time"]⟩,
   ⟨10, [.count "Spin retries" 3 0]⟩,
   ⟨12, [.count "Power cycles" 3 0]⟩,
   ⟨18, [.failingHeads]⟩,
   ⟨183, [.count "PHY events" 3 0]⟩,
   ⟨184, [.count "End-to-end data path errors" 3 0]⟩,
   ⟨187, [.count "Uncorrectable errors reported to host" 3 0]⟩,
   ⟨188, [.count "Total command timeouts" 1 0,
      .count "Commands completing in more than 5 s" 3 2,
      .count "Commands completing in more than 7.5 s" 5 4]⟩,
   ⟨189, [.count "High fly writes" 3 0]⟩,
   ⟨190, [.celsius "Current airflow temperature" 0,
      .celsius "Lowest this power cycle" 2,
      .celsius "Highest this power cycle" 3]⟩,
   ⟨191, [.count "Shock events" 3 0]⟩,
   ⟨192, [.count "Emergency retracts" 3 0]⟩,
   ⟨193, [.count "Load/unload cycles" 3 0]⟩,
   ⟨194, [.celsius "Current temperature" 0,
      .celsius "Highest recorded" 2,
      .celsius "Lowest recorded" 4]⟩,
   ⟨195, [.count "On-the-fly ECC corrections" 3 0]⟩,
   ⟨197, [.count "Sectors pending reallocation" 3 0]⟩,
   ⟨198, [.count "Uncorrectable sectors found offline" 3 0]⟩,
   ⟨199, [.count "Interface CRC errors" 3 0]⟩,
   ⟨200, [.count "Pressure limit events" 3 0]⟩,
   ⟨231, [.nominalPercent "Endurance remaining"]⟩,
   ⟨240, [.duration "Head flight time"]⟩,
   ⟨241, [.volume "LBAs written" 5 0 sector]⟩,
   ⟨242, [.volume "LBAs read" 5 0 sector]⟩,
   ⟨254, [.count "Free fall events" 3 0]⟩]

def seagateLegacy : List Meaning :=
  [⟨1, [.count "Read errors" 3 0]⟩,
   ⟨7, [.count "Seek errors" 3 0]⟩,
   ⟨11, [.count "Calibration retries" 3 0]⟩,
   ⟨194, [.celsius "Current temperature" 0, .celsius "Highest recorded" 2]⟩,
   ⟨196, [.count "Reallocation events" 3 0]⟩]

def solidState : List Meaning :=
  [⟨1, [.count "Read errors" 3 0]⟩,
   ⟨5, [.count "Retired blocks" 3 0]⟩,
   ⟨9, [.hours "Power on time"]⟩,
   ⟨12, [.count "Power cycles" 3 0]⟩,
   ⟨100, [.volume "Flash erased" 5 0 gibibyte]⟩,
   ⟨170, [.count "Grown bad blocks" 3 0]⟩,
   ⟨171, [.count "Program failures" 3 0]⟩,
   ⟨172, [.count "Erase failures" 3 0]⟩,
   ⟨173, [.count "Average program/erase cycles" 1 0]⟩,
   ⟨174, [.count "Unexpected power losses" 3 0]⟩,
   ⟨177, [.count "Wear range delta" 3 0]⟩,
   ⟨183, [.count "SATA downshifts" 3 0]⟩,
   ⟨187, [.count "Uncorrectable RAISE errors" 3 0]⟩,
   ⟨194, [.celsius "Current temperature" 0, .celsius "Highest recorded" 2]⟩,
   ⟨195, [.count "ECC events" 3 0]⟩,
   ⟨199, [.count "Interface CRC errors" 3 0]⟩,
   ⟨231, [.nominalPercent "Endurance remaining"]⟩,
   ⟨233, [.volume "Written to flash" 5 0 gibibyte]⟩,
   ⟨234, [.volume "Read from flash" 5 0 gibibyte]⟩,
   ⟨241, [.volume "Written by host" 5 0 gibibyte]⟩,
   ⟨242, [.volume "Read by host" 5 0 gibibyte]⟩]

def solidStateB : List Meaning :=
  [⟨171, [.count "Program failures" 5 2]⟩,
   ⟨177, [.percent "Endurance remaining" 3 0]⟩,
   ⟨241, [.volume "Written by host" 5 0 mebibytes32]⟩,
   ⟨242, [.volume "Read by host" 5 0 mebibytes32]⟩]

def solidStateCD : List Meaning :=
  [⟨11, [.bits "Backup circuit faults" 1 0]⟩,
   ⟨169, [.percent "Life remaining" 3 0]⟩,
   ⟨190, [.nominalCelsius "Current airflow temperature",
      .worstCelsius "Highest airflow temperature"]⟩,
   ⟨194, [.celsius "Current temperature" 0]⟩,
   ⟨202, [.percent "Lifetime used" 3 0]⟩]

def solidStateE : List Meaning :=
  [⟨167, [.bits "Write protect reasons" 3 0]⟩,
   ⟨168, [.count "SATA PHY errors" 3 0]⟩,
   ⟨194, [.celsius "Current temperature" 0,
      .celsius "Highest recorded" 2,
      .celsius "Lowest recorded" 4]⟩,
   ⟨245, [.count "Host pages written" 5 0]⟩]

def solidStateFG : List Meaning :=
  [⟨175, [.count "Program failures on worst chip" 3 0]⟩,
   ⟨176, [.count "Erase failures on worst chip" 3 0]⟩,
   ⟨181, [.count "Program failures" 3 0]⟩,
   ⟨182, [.count "Erase failures" 3 0]⟩,
   ⟨231, [.percent "Endurance remaining" 3 0]⟩]

def solidStateK : List Meaning :=
  [⟨173, [.count "Maximum erase count" 1 0]⟩,
   ⟨174, [.count "Unexpected power losses" 3 0]⟩,
   ⟨194, [.nominalCelsius "Current temperature", .worstCelsius "Highest recorded"]⟩,
   ⟨246, [.volume "Host sectors written" 5 0 sector]⟩,
   ⟨247, [.count "Host pages programmed" 5 0]⟩,
   ⟨248, [.count "Background pages programmed" 5 0]⟩]

def samsung : List Meaning :=
  [⟨5, [.count "Reallocated sectors" 3 0]⟩,
   ⟨9, [.hours "Power on time"]⟩,
   ⟨12, [.count "Power cycles" 3 0]⟩,
   ⟨177, [.count "Average program/erase cycles" 3 0, .nominalPercent "Wear remaining"]⟩,
   ⟨179, [.count "Used reserved blocks" 3 0, .nominalPercent "Reserve remaining"]⟩,
   ⟨181, [.count "Program failures" 3 0]⟩,
   ⟨182, [.count "Erase failures" 3 0]⟩,
   ⟨183, [.count "Runtime bad blocks" 3 0]⟩,
   ⟨187, [.count "Uncorrectable errors" 3 0]⟩,
   ⟨190, [.celsius "Current airflow temperature" 0]⟩,
   ⟨194, [.celsius "Current temperature" 0, .celsius "Highest recorded" 2]⟩,
   ⟨195, [.count "ECC errors" 3 0]⟩,
   ⟨199, [.count "Interface CRC errors" 3 0]⟩,
   ⟨235, [.count "Power-off recoveries" 3 0]⟩,
   ⟨241, [.volume "LBAs written" 5 0 sector]⟩]

def maxtor : List Meaning :=
  [⟨1, [.count "Read errors" 3 0]⟩,
   ⟨3, [.count "Spin up time (ms)" 1 0]⟩,
   ⟨4, [.count "Spindle start/stop cycles" 3 0]⟩,
   ⟨5, [.count "Reallocated sectors" 3 0]⟩,
   ⟨7, [.count "Seek errors" 3 0]⟩,
   ⟨9, [.hours "Power on time"]⟩,
   ⟨10, [.count "Spin retries" 3 0]⟩,
   ⟨11, [.count "Calibration retries" 3 0]⟩,
   ⟨12, [.count "Power cycles" 3 0]⟩,
   ⟨192, [.count "Power-off retracts" 3 0]⟩,
   ⟨193, [.count "Load cycles" 3 0]⟩,
   ⟨194, [.celsius "Current temperature" 0]⟩,
   ⟨195, [.count "Hardware ECC recoveries" 3 0]⟩,
   ⟨196, [.count "Reallocation events" 3 0]⟩,
   ⟨197, [.count "Sectors pending reallocation" 3 0]⟩,
   ⟨198, [.count "Uncorrectable sectors found offline" 3 0]⟩,
   ⟨199, [.count "Interface CRC errors" 3 0]⟩,
   ⟨200, [.count "Write errors" 3 0]⟩,
   ⟨220, [.count "Disk shift" 3 0]⟩,
   ⟨222, [.count "Loaded hours" 3 0]⟩,
   ⟨223, [.count "Load retries" 3 0]⟩,
   ⟨224, [.count "Load friction" 3 0]⟩,
   ⟨226, [.count "Load-in time" 3 0]⟩]

def generic : List Meaning :=
  [⟨1, [.count "Read errors" 3 0]⟩,
   ⟨4, [.count "Spindle start/stop cycles" 3 0]⟩,
   ⟨5, [.count "Reallocated sectors" 3 0]⟩,
   ⟨7, [.count "Seek errors" 3 0]⟩,
   ⟨9, [.hours "Power on time"]⟩,
   ⟨12, [.count "Power cycles" 3 0]⟩,
   ⟨187, [.count "Uncorrectable errors reported to host" 3 0]⟩,
   ⟨194, [.celsius "Current temperature" 0]⟩,
   ⟨197, [.count "Sectors pending reallocation" 3 0]⟩]

def ofFamily : VendorFamily → List Meaning
  | .seagate => seagateDisk
  | .seagateConner | .seagateQuantum => seagateLegacy ++ seagateDisk
  | .seagateVendorB => solidStateB ++ solidState
  | .seagateVendorC | .seagateVendorD => solidStateCD ++ solidState
  | .seagateVendorE => solidStateE ++ solidState
  | .seagateVendorF | .seagateVendorG => solidStateFG ++ solidState
  | .seagateVendorK => solidStateK ++ solidState
  | .samsung => samsung
  | .maxtor => maxtor
  | .generic => generic

def find? (family : VendorFamily) (id : UInt8) : Option Meaning :=
  (ofFamily family).find? fun m => m.id == id

end DriveHealth.Attribute.Meaning

namespace DriveHealth.Attribute

/-- The lines that explain the raw bytes, if the family knows what they mean. -/
def explain? (family : VendorFamily) (a : Attribute) : Option (List String) :=
  (Meaning.find? family a.id).map fun m => m.lines.map fun l => l.render a

end DriveHealth.Attribute
