import DriveHealth.Drive
import DriveHealth.Error
import DriveHealth.Farm.Dataset
import DriveHealth.Text.Field

/-!
The layout of a combined file: a header of 256 bytes, a descriptor of 32 bytes for each dataset,
and the payloads. Each payload starts at a multiple of 512, and nothing is padded behind the last
one. The counts and offsets of a file are words of 16 and 32 bits, so a layout may be refused.
-/
namespace DriveHealth.Farm

structure Descriptor where
  kind : Kind
  offset : UInt32
  length : UInt32
  startTime : UInt64
  endTime : UInt64
  deriving DecidableEq, Inhabited

/-- A descriptor with the zero bytes that follow the payload. -/
structure Placement where
  descriptor : Descriptor
  padding : Nat
  deriving DecidableEq, Inhabited

structure Layout where
  /-- Of the header and the descriptors. -/
  headerLength : UInt16
  headerPadding : Nat
  bitmap : UInt32
  placements : List Placement
  fileSize : Nat
  deriving DecidableEq, Inhabited

namespace Layout

def signature : String := "STX_FARM_COMBINE"

def majorVersion : UInt16 := 1

def minorVersion : UInt16 := 1

def patchVersion : UInt16 := 0

def headerSize : Nat := 256

def descriptorSize : Nat := 32

def alignment : Nat := 512

def descriptors (l : Layout) : List Descriptor := l.placements.map Placement.descriptor

/-- Places datasets from an offset on, and answers the end of the last one. -/
def place (offset : Nat) : List Dataset → Except Error (List Placement × Nat)
  | [] => .ok ([], offset)
  | d :: r =>
    if 2 ^ 32 ≤ d.payload.size then .error (.badParameter (d.kind.label ++ " payload too large"))
    else if 2 ^ 32 ≤ offset then .error (.badParameter "combined file exceeds 4 GiB")
    else
      let stop := offset + d.payload.size
      let padding := if r.isEmpty then 0 else Bytes.roundUp stop alignment - stop
      let descriptor : Descriptor :=
        ⟨d.kind, .ofNat offset, .ofNat d.payload.size, d.startTime, d.endTime⟩
      match place (stop + padding) r with
      | .ok (l, fileSize) => .ok (⟨descriptor, padding⟩ :: l, fileSize)
      | .error e => .error e

def plan (l : List Dataset) : Except Error Layout :=
  let headerLength := headerSize + descriptorSize * l.length
  if 2 ^ 16 ≤ headerLength then
    .error (.badParameter s!"{l.length} datasets do not fit a header")
  else
    let start := Bytes.roundUp headerLength alignment
    match place start l with
    | .ok (placements, fileSize) =>
      .ok ⟨.ofNat headerLength, start - headerLength, Kind.bitmap (l.map Dataset.kind),
        placements, fileSize⟩
    | .error e => .error e

def encodeHeader (l : Layout) (kind : DriveKind) (identity : Identity) : Bytes :=
  signature.toUTF8 ++ Bytes.zeros 2 ++ Bytes.le 2 patchVersion.toNat ++
    Bytes.le 2 minorVersion.toNat ++ Bytes.le 2 majorVersion.toNat ++ kind.tag.toUTF8 ++
    Bytes.zeros 4 ++ Text.Field.padded 40 identity.model ++ Bytes.zeros 8 ++
    Text.Field.padded 20 identity.serial ++ Bytes.zeros 4 ++
    Text.Field.padded 8 identity.firmware ++ Bytes.zeros 4 ++
    Bytes.le 2 l.headerLength.toNat ++ Bytes.le 4 l.bitmap.toNat ++ Bytes.zeros 130 ++
    Bytes.le 2 l.placements.length ++ Bytes.le 2 descriptorSize

end Layout

def Descriptor.encode (d : Descriptor) : Bytes :=
  d.kind.signatureBytes ++ Bytes.le 4 d.offset.toNat ++ Bytes.le 4 d.length.toNat ++
    Bytes.le 8 d.startTime.toNat ++ Bytes.le 8 d.endTime.toNat

end DriveHealth.Farm
