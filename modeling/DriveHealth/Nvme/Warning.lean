import DriveHealth.Text.Layout

/-!
The critical warning byte of an NVMe drive: what each of its bits says.
-/
namespace DriveHealth.Nvme.Warning

def bitText : Nat → String
  | 0 => "Available spare capacity has fallen below the threshold"
  | 1 => "Temperature is above an over temperature threshold or below an under temperature " ++
      "threshold"
  | 2 => "NVM subsystem reliability has been degraded due to significant media related errors " ++
      "or internal errors"
  | 3 => "Media has been placed in read only mode"
  | 4 => "Volatile memory backup device has failed"
  | 5 => "Persistent memory region has become read-only or unreliable"
  | bit => s!"Reserved critical warning bit {bit} is set"

/-- One reason for each bit that is set, the lowest first. -/
def reasons (bits : UInt8) : List String :=
  ((List.range 8).filter fun b => bits.toNat.testBit b).map bitText

end DriveHealth.Nvme.Warning
