import DriveHealth.Node.Call
import DriveHealth.Transport.Request

/-!
ATA commands inside the SCSI command ATA PASS-THROUGH(16), and the registers that such a command
returns in a descriptor of its sense data.
-/
namespace DriveHealth.Node

inductive AtaProtocol where
  | nonData
  | pioIn
  deriving DecidableEq, Inhabited

def AtaProtocol.code : AtaProtocol → UInt8
  | nonData => 3
  | pioIn => 4

structure AtaCommand where
  command : UInt8
  features : UInt16 := 0
  count : UInt16 := 0
  lba : Nat := 0
  device : UInt8 := 0
  /-- Whether the registers hold two bytes each. -/
  extended : Bool := false
  deriving DecidableEq, Inhabited

namespace AtaCommand

def identify : AtaCommand := { command := 0xEC, count := 1 }

/-- SMART commands carry a signature in the two upper bytes of the address. -/
def smart (subcommand : UInt16) (count : UInt16) (log : UInt8) : AtaCommand :=
  { command := 0xB0, features := subcommand, count := count, lba := 0xC24F00 + log.toNat }

/-- The page number is split around the middle of the address. -/
def readLog (log : UInt8) (page : Nat) (feature count : UInt16) : AtaCommand :=
  { command := 0x2F, features := feature, count := count
    lba := log.toNat + 256 * (page % 256) + 2 ^ 32 * (page / 256 % 256)
    device := 0x40, extended := true }

def low (w : UInt16) : UInt8 := .ofNat w.toNat

def high (w : UInt16) : UInt8 := .ofNat (w.toNat / 256)

def lbaByte (c : AtaCommand) (i : Nat) : UInt8 := .ofNat (c.lba / 256 ^ i)

/-- Data comes from the drive in sectors, as many as the count says. -/
def transferFlags (protocol : AtaProtocol) (returnRegisters : Bool) : UInt8 :=
  (match protocol with | .pioIn => 0x0E | .nonData => 0) + (if returnRegisters then 0x20 else 0)

def cdb (c : AtaCommand) (protocol : AtaProtocol) (returnRegisters : Bool) : List UInt8 :=
  [0x85, protocol.code * 2 + (if c.extended then 1 else 0),
    transferFlags protocol returnRegisters, high c.features, low c.features, high c.count,
    low c.count, c.lbaByte 3, c.lbaByte 0, c.lbaByte 4, c.lbaByte 1, c.lbaByte 5, c.lbaByte 2,
    c.device, c.command, 0]

end AtaCommand

namespace ReturnDescriptor

/-- The registers in a descriptor, of which the first two bytes are gone. -/
def registers (body : List UInt8) : Transport.TaskFile :=
  { error := body.getD 1 0, count := body.getD 3 0, lbaLow := body.getD 5 0
    lbaMid := body.getD 7 0, lbaHigh := body.getD 9 0, device := body.getD 10 0
    status := body.getD 11 0 }

/-- Goes from descriptor to descriptor up to the first one that holds registers. -/
def walk : List UInt8 → Option Transport.TaskFile
  | type :: length :: body =>
    if type = 0x09 ∧ 12 ≤ body.length then some (registers body)
    else walk (body.drop length.toNat)
  | _ => none
termination_by l => l.length
decreasing_by simp only [List.length_drop, List.length_cons]; omega

def ofSense? (sense : Bytes) : Option Transport.TaskFile :=
  if sense.size < 22 ∨ sense.byteAt 0 &&& 0x7F ≠ 0x72 then none
  else walk (sense.data.toList.drop 8)

end ReturnDescriptor
end DriveHealth.Node
