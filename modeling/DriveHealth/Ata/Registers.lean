import DriveHealth.Ata.Opcode
import DriveHealth.Instances
import DriveHealth.Text.Layout

/-!
The registers written for one ATA command, and how they address user data: by logical block, or
by cylinder, head and sector when a 28-bit command selects that. A 28-bit command keeps the four
high bits of its address in the device register.
-/
namespace DriveHealth.Ata

structure Registers where
  command : Opcode := 0
  features : UInt16 := 0
  count : UInt16 := 0
  lba : Nat := 0
  device : UInt8 := 0
  deriving DecidableEq, Inhabited

namespace Registers

def featuresLow (r : Registers) : Nat := r.features.toNat % 256

def featuresHigh (r : Registers) : Nat := r.features.toNat / 256

def countLow (r : Registers) : Nat := r.count.toNat % 256

def countHigh (r : Registers) : Nat := r.count.toNat / 256

def lbaLow (r : Registers) : Nat := r.lba % 256

/-- The middle byte of the address below its high byte. -/
def lbaMidHigh (r : Registers) : Nat := r.lba / 256 % 65536

def lbaMode (r : Registers) : Bool := r.device.toNat.testBit 6

def head (r : Registers) : Nat := r.device.toNat % 16

end Registers

namespace Address

def lba28 (lba : Nat) (device : UInt8) : Nat := lba % 2 ^ 24 + device.toNat % 16 * 2 ^ 24

def block (lba : Nat) : String := "LBA: " ++ Text.decimal lba

def place (lba : Nat) (device : UInt8) : String :=
  s!"Cylinder: {lba / 256 % 65536} Head: {device.toNat % 16} Sector: {lba % 256}"

end Address

namespace Registers

def lba28 (r : Registers) : Nat := Address.lba28 r.lba r.device

def address (r : Registers) : String :=
  if r.command.isExtended then Address.block r.lba
  else if r.lbaMode then Address.block r.lba28
  else Address.place r.lba r.device

/-- A count of zero stands for the most that the register can ask for. -/
def sectorCount (r : Registers) : Nat :=
  if r.command.isExtended then (if r.count = 0 then 65536 else r.count.toNat)
  else if r.countLow = 0 then 256 else r.countLow

def streamId (r : Registers) : Nat := r.features.toNat % 8

/-- The tag of a queued command. -/
def tag (r : Registers) : Nat := r.count.toNat / 8 % 32

/-- A block count with its low byte in the count and its high byte in the address. -/
def blockCount (r : Registers) : Nat := r.countLow + 256 * r.lbaLow

end Registers
end DriveHealth.Ata
