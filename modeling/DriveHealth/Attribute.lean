import DriveHealth.Bytes.Span

/-!
SMART attributes of an ATA drive, and the rule by which an attribute trips. A threshold of 0, 254
or 255 is no number to compare with, and a nominal or worst value outside 1 to 253 suppresses the
comparison.
-/
namespace DriveHealth

namespace Attribute

def lowestValue : UInt8 := 1

def highestValue : UInt8 := 253

def inRange (v : UInt8) : Bool := lowestValue ≤ v && v ≤ highestValue

inductive Threshold where
  | alwaysPassing
  | alwaysFailing
  | invalid
  | value (v : UInt8)
  deriving DecidableEq, Inhabited

def Threshold.ofByte (b : UInt8) : Threshold :=
  if b = 0 then alwaysPassing
  else if b = 0xFF then alwaysFailing
  else if b = 0xFE then invalid
  else value b

inductive TripState where
  | ok
  | failing
  | previouslyFailed
  | alwaysFailing
  deriving DecidableEq, Inhabited

def TripState.tripped (s : TripState) : Bool := s != .ok

abbrev Flags := UInt16

def Flags.has (f : Flags) (bit : UInt16) : Bool := f &&& bit != 0

/-- An attribute under warranty: when it trips, the drive is failing. -/
def Flags.prefail (f : Flags) : Bool := Flags.has f 0x0001

abbrev Raw := Vector UInt8 7

end Attribute

structure Attribute where
  id : UInt8
  flags : Attribute.Flags
  nominal : UInt8
  worst : UInt8
  raw : Attribute.Raw
  /-- Missing when no threshold page was read or the page does not name the attribute. -/
  threshold : Option UInt8
  deriving DecidableEq

namespace Attribute

def prefail (a : Attribute) : Bool := Flags.prefail a.flags

/-- The number in a span of the raw bytes. -/
def span (a : Attribute) (msb lsb : Nat) : Nat := Bytes.Span.read a.raw.toList msb lsb

/-- The low six raw bytes as one counter. -/
def counter (a : Attribute) : Nat := a.span 5 0

def rawByte (a : Attribute) (i : Nat) : UInt8 := a.raw.toList.getD i 0

def compare (a : Attribute) (t : UInt8) : TripState :=
  if !inRange a.nominal || !inRange a.worst then .ok
  else if a.nominal ≤ t then .failing
  else if a.worst ≤ t then .previouslyFailed
  else .ok

def tripState (a : Attribute) : TripState :=
  match a.threshold.map Threshold.ofByte with
  | none | some .alwaysPassing | some .invalid => .ok
  | some .alwaysFailing => .alwaysFailing
  | some (.value t) => a.compare t

end Attribute
end DriveHealth
