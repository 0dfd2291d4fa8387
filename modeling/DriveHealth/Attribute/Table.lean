import DriveHealth.Attribute
import DriveHealth.Bytes
import DriveHealth.Error

/-!
The attribute table: thirty records of a SMART data page, each joined with the first record of
its id in the threshold page. A slot whose id is zero is empty. A threshold record counts only if
it lies wholly inside its page.
-/
namespace DriveHealth.Attribute

structure Table where
  version : UInt16
  attributes : List Attribute
  thresholdsLoaded : Bool
  checksumValid : Bool
  deriving DecidableEq

namespace Table

def slotCount : Nat := 30

def recordLength : Nat := 12

def pageLength : Nat := 512

/-- Where the record of a slot starts; both pages have the same layout. -/
def recordStart (slot : Nat) : Nat := 2 + slot * recordLength

def thresholdOf? (page : Bytes) (id : UInt8) : Option UInt8 :=
  let starts := ((List.range slotCount).map recordStart).filter
    fun off => off + recordLength ≤ page.size
  (starts.find? fun off => page.byteAt off == id).map fun off => page.byteAt (off + 1)

def attributeAt (data : Bytes) (thresholds : Option Bytes) (slot : Nat) : Attribute :=
  let off := recordStart slot
  { id := data.byteAt off
    flags := data.le16 (off + 1)
    nominal := data.byteAt (off + 3)
    worst := data.byteAt (off + 4)
    raw := .ofFn fun i => data.byteAt (off + 5 + i)
    threshold := thresholds.bind fun page => thresholdOf? page (data.byteAt off) }

def ofPages (data : Bytes) (thresholds : Option Bytes) : Except Error Table :=
  if data.size < pageLength then
    .error (.parse s!"SMART data is {data.size} bytes, expected {pageLength}")
  else
    .ok
      { version := data.le16 0
        attributes := ((List.range slotCount).map (attributeAt data thresholds)).filter
          fun a => a.id != 0
        thresholdsLoaded := thresholds.isSome
        checksumValid := Bytes.checksumOk (data.extract 0 pageLength) }

def find? (t : Table) (id : UInt8) : Option Attribute := t.attributes.find? fun a => a.id == id

end Table
end DriveHealth.Attribute
