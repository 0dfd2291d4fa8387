import DriveHealth.Ata.Registers

/-!
The text of a failed ATA command: the conditions in its status and error registers, the address
if it is a data command, and the device register. Some bits have a meaning for some commands
only.
-/
namespace DriveHealth.Ata

/-- The failing command, and the registers that the drive returned. -/
structure Failure where
  command : Opcode
  /-- The device register as written with the command. -/
  commandDevice : UInt8
  status : UInt8
  error : UInt8
  count : UInt16
  lba : Nat
  device : UInt8
  transportSpecific : UInt8
  deriving DecidableEq, Inhabited

namespace Failure

def statusBit (f : Failure) (i : Nat) : Bool := f.status.toNat.testBit i

def errorBit (f : Failure) (i : Nat) : Bool := f.error.toNat.testBit i

/-- The error register means something only when this is set. -/
def errorValid (f : Failure) : Bool := f.statusBit 0

/-- The texts of the conditions that hold. -/
def present (l : List (Bool × String)) : List String := (l.filter Prod.fst).map Prod.snd

def statusConditions (f : Failure) : List String :=
  present
    [(f.statusBit 5, "Device Fault"),
     (f.statusBit 2, "Alignment Error"),
     (f.command.isStreaming && f.statusBit 4, "Deferred Write Error"),
     (f.errorValid, "Error Reg Valid")]

/-- An interface CRC error always comes with an abort, which is then not named. -/
def errorConditions (f : Failure) : List String :=
  present
    [(f.errorBit 7, "Interface CRC"),
     (f.errorBit 6, "Uncorrectable Data"),
     (f.errorBit 4, "ID Not Found"),
     (f.errorBit 2 && !f.errorBit 7, "Abort"),
     (f.command.isRecalibrate && f.errorBit 1, "Track 0 Not Found"),
     (f.command.isStreaming && f.errorBit 0, "Command Completion Timeout")]

/-- The conditions, or the register itself when it names none. -/
def conditions (l : List String) (register : UInt8) : String :=
  if l.isEmpty then Text.hexCaps 2 register.toNat ++ "h" else ", ".intercalate l

def address (f : Failure) : String :=
  if f.command.isExtended then Address.block f.lba
  else if f.commandDevice.toNat.testBit 6 then Address.block (Address.lba28 f.lba f.device)
  else Address.place f.lba f.device

def text (f : Failure) : String :=
  "Status: " ++ conditions f.statusConditions f.status ++
    (if f.errorValid then ", Error: " ++ conditions f.errorConditions f.error else "") ++
    (if f.command.isDataTransfer then "  " ++ f.address else "") ++
    "  Device: " ++ Text.hexCaps 2 f.device.toNat ++
    (if f.transportSpecific = 0 then ""
      else "  Transport Specific: " ++ Text.hexCaps 2 f.transportSpecific.toNat)

end Failure
end DriveHealth.Ata
