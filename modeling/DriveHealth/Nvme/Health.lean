import DriveHealth.Bytes

/-!
The SMART / health information page of an NVMe drive. Only the sensors that report a temperature
are kept, in order.
-/
namespace DriveHealth.Nvme

structure Health where
  criticalWarning : UInt8
  kelvin : UInt16
  availableSpare : UInt8
  availableSpareThreshold : UInt8
  percentageUsed : UInt8
  /-- Units of a thousand sectors of 512 bytes. -/
  dataUnitsRead : Nat
  dataUnitsWritten : Nat
  hostReadCommands : Nat
  hostWriteCommands : Nat
  controllerBusyMinutes : Nat
  powerCycles : Nat
  powerOnHours : Nat
  unsafeShutdowns : Nat
  mediaErrors : Nat
  errorLogEntries : Nat
  warningTemperatureMinutes : UInt32
  criticalTemperatureMinutes : UInt32
  sensors : List UInt16
  deriving DecidableEq, Inhabited

namespace Health

def pageLength : Nat := 512

def logPage : UInt8 := 0x02

def allNamespaces : UInt32 := 0xFFFFFFFF

/-- The counter of sixteen bytes at an offset. -/
def counterAt (page : Bytes) (off : Nat) : Nat := page.leNat off 16

def sensorAt (page : Bytes) (i : Nat) : UInt16 := page.le16 (200 + 2 * i)

def ofPage? (page : Bytes) : Option Health :=
  if page.size < pageLength then none
  else
    some
      { criticalWarning := page.byteAt 0
        kelvin := page.le16 1
        availableSpare := page.byteAt 3
        availableSpareThreshold := page.byteAt 4
        percentageUsed := page.byteAt 5
        dataUnitsRead := counterAt page 32
        dataUnitsWritten := counterAt page 48
        hostReadCommands := counterAt page 64
        hostWriteCommands := counterAt page 80
        controllerBusyMinutes := counterAt page 96
        powerCycles := counterAt page 112
        powerOnHours := counterAt page 128
        unsafeShutdowns := counterAt page 144
        mediaErrors := counterAt page 160
        errorLogEntries := counterAt page 176
        warningTemperatureMinutes := page.le32 192
        criticalTemperatureMinutes := page.le32 196
        sensors := ((List.range 8).map (sensorAt page)).filter (· != 0) }

def celsius (kelvin : UInt16) : Int := (kelvin.toNat : Int) - 273

def temperature (h : Health) : Int := celsius h.kelvin

def unitBytes : Nat := 512 * 1000

/-- The bytes of so many units, in a word of 128 bits. The counters fill such words themselves, so
from some counter on the product wraps. -/
def bytesOf (units : Nat) : Nat := (BitVec.ofNat 128 units * 512 * 1000).toNat

def bytesRead (h : Health) : Nat := bytesOf h.dataUnitsRead

def bytesWritten (h : Health) : Nat := bytesOf h.dataUnitsWritten

theorem bytesOf_eq (units : Nat) : bytesOf units = units * unitBytes % 2 ^ 128 := by
  have hsectors : (512 : BitVec 128).toNat = 512 := rfl
  have hthousand : (1000 : BitVec 128).toNat = 1000 := rfl
  rw [bytesOf, BitVec.toNat_mul, BitVec.toNat_mul, BitVec.toNat_ofNat, hsectors, hthousand,
    Nat.mod_mul_mod, Nat.mul_assoc, Nat.mod_mul_mod, unitBytes]

end Health
end DriveHealth.Nvme
