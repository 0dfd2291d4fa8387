import DriveHealth.Bytes

/-!
The records of an error log: the commands that came before an error, and the error itself, in
their 28-bit and their extended form. An entry holds five command records and one error record;
an entry of zeros is unused, and so is a command record of zeros.
-/
namespace DriveHealth.ErrorLog

structure CommandRecord where
  deviceControl : UInt8 := 0
  features : UInt16 := 0
  count : UInt16 := 0
  lba : Nat := 0
  device : UInt8 := 0
  command : UInt8 := 0
  /-- Milliseconds since power-on. -/
  timestamp : UInt32 := 0
  deriving DecidableEq, Inhabited

inductive Reset where
  | hardware
  | software
  deriving DecidableEq, Inhabited

structure ErrorRecord where
  transportSpecific : UInt8
  error : UInt8
  count : UInt16
  lba : Nat
  device : UInt8
  status : UInt8
  vendorUnique : Vector UInt8 19
  /-- The low half of the state byte. -/
  state : UInt8
  lifeHours : UInt16
  deriving DecidableEq

namespace CommandRecord

def isEmpty (c : CommandRecord) : Bool := c == {}

/-- A record of a reset is marked in its device control byte. -/
def reset? (c : CommandRecord) : Option Reset :=
  if c.deviceControl = 0xFF then some .hardware
  else if c.deviceControl.toNat.testBit 2 then some .software
  else none

def length (extended : Bool) : Nat := if extended then 18 else 12

def ofBytes (extended : Bool) (b : Bytes) : CommandRecord :=
  if extended then
    { deviceControl := b.byteAt 0
      features := b.le16 1
      count := b.le16 3
      lba := Bytes.leValue ([5, 7, 9, 6, 8, 10].map b.byteAt)
      device := b.byteAt 11
      command := b.byteAt 12
      timestamp := b.le32 14 }
  else
    { deviceControl := b.byteAt 0
      features := (b.byteAt 1).toUInt16
      count := (b.byteAt 2).toUInt16
      lba := Bytes.leValue ([3, 4, 5].map b.byteAt)
      device := b.byteAt 6
      command := b.byteAt 7
      timestamp := b.le32 8 }

end CommandRecord

namespace ErrorRecord

def vendorBytes (b : Bytes) (off : Nat) : Vector UInt8 19 := .ofFn fun i => b.byteAt (off + i)

def ofBytes (extended : Bool) (b : Bytes) : ErrorRecord :=
  if extended then
    { transportSpecific := b.byteAt 0
      error := b.byteAt 1
      count := b.le16 2
      lba := Bytes.leValue ([4, 6, 8, 5, 7, 9].map b.byteAt)
      device := b.byteAt 10
      status := b.byteAt 11
      vendorUnique := vendorBytes b 12
      state := b.byteAt 31 % 16
      lifeHours := b.le16 32 }
  else
    { transportSpecific := b.byteAt 0
      error := b.byteAt 1
      count := (b.byteAt 2).toUInt16
      lba := Bytes.leValue ([3, 4, 5].map b.byteAt)
      device := b.byteAt 6
      status := b.byteAt 7
      vendorUnique := vendorBytes b 8
      state := b.byteAt 27 % 16
      lifeHours := b.le16 28 }

def stateLabel (e : ErrorRecord) : String :=
  match e.state.toNat % 16 with
  | 0x0 => "Unknown"
  | 0x1 => "Sleep"
  | 0x2 => "Standby"
  | 0x3 => "Active/Idle"
  | 0x4 => "Executing SMART offline or self-test"
  | n => if n ≤ 0xA then "Reserved" else "Vendor Specific"

end ErrorRecord

/-- One entry of a log, its commands oldest first. -/
structure Entry where
  commands : List CommandRecord
  error : ErrorRecord
  deriving DecidableEq

namespace Entry

def commandCount : Nat := 5

def length (extended : Bool) : Nat := if extended then 124 else 90

/-- Where the first entry of a page starts. -/
def firstStart (extended : Bool) : Nat := if extended then 4 else 2

def start (extended : Bool) (slot : Nat) : Nat := firstStart extended + slot * length extended

def ofBytes (extended : Bool) (b : Bytes) : Entry :=
  let width := CommandRecord.length extended
  let records := (List.range commandCount).map fun i =>
    CommandRecord.ofBytes extended (b.slice (i * width) width)
  let error := ErrorRecord.ofBytes extended
    (b.extract (commandCount * width) b.size)
  ⟨records.filter fun c => !c.isEmpty, error⟩

def ofBytes? (extended : Bool) (b : Bytes) : Option Entry :=
  if b.isZero then none else some (ofBytes extended b)

/-- The entry in a slot of a page, if the slot lies on the page and is used. -/
def inPage? (extended : Bool) (page : Bytes) (slot : Nat) : Option Entry :=
  let off := start extended slot
  if off + length extended ≤ page.size then
    ofBytes? extended (page.slice off (length extended))
  else none

end Entry

/-- What the first page says of the whole log. -/
structure Header where
  version : UInt8
  /-- The slot of the latest entry, counted from one; zero when the log is empty. -/
  index : UInt16
  errorCount : UInt16
  deriving DecidableEq, Inhabited

def Header.ofPage (extended : Bool) (page : Bytes) : Header :=
  if extended then ⟨page.byteAt 0, page.le16 2, page.le16 500⟩
  else ⟨page.byteAt 0, (page.byteAt 1).toUInt16, page.le16 452⟩

end DriveHealth.ErrorLog
