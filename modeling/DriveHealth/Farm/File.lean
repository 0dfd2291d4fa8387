import DriveHealth.Farm.Summary
import DriveHealth.Text.Quoted
import DriveHealth.Text.Utf8

/-!
Reading a combined file. A file of another major version is refused rather than guessed at, and
every length, offset and kind that the file gives must agree with the others.
-/
namespace DriveHealth.Farm

structure File where
  summary : Summary
  data : Bytes
  deriving DecidableEq, Inhabited

namespace File

open Layout

def unknownSignature (i : Nat) (signature : Bytes) : Error :=
  .parse (s!"descriptor {i} has unknown signature " ++
    Text.Quoted.encode (Text.Utf8.lossy signature))

/-- The descriptor at an offset; its payload must lie behind the descriptors and in the file. -/
def readDescriptor (data : Bytes) (headerLength i : Nat) : Except Error Descriptor :=
  let base := headerSize + i * descriptorSize
  match Kind.ofSignature? (data.slice base 8) with
  | none => .error (unknownSignature i (data.slice base 8))
  | some kind =>
    let offset := data.le32 (base + 8)
    let length := data.le32 (base + 12)
    if data.size < offset.toNat + length.toNat ∨ offset.toNat < headerLength then
      .error (.parse (kind.label ++ " payload lies outside the file"))
    else .ok ⟨kind, offset, length, data.le64 (base + 16), data.le64 (base + 24)⟩

/-- Reads `n` descriptors from the `i`-th on. -/
def readDescriptors (data : Bytes) (headerLength : Nat) :
    Nat → Nat → Except Error (List Descriptor)
  | 0, _ => .ok []
  | n + 1, i =>
    match readDescriptor data headerLength i with
    | .error e => .error e
    | .ok d =>
      match readDescriptors data headerLength n (i + 1) with
      | .error e => .error e
      | .ok l => .ok (d :: l)

def prefixedHex (n : Nat) : String := "0x" ++ Text.hex 2 n

def bitmapError (found expected : UInt32) : Error :=
  .parse ("content bitmap " ++ prefixedHex found.toNat ++ " disagrees with descriptors (" ++
    prefixedHex expected.toNat ++ ")")

def readSummary (data : Bytes) (headerLength : UInt16) (descriptors : List Descriptor) :
    Summary :=
  { major := data.le16 22
    minor := data.le16 20
    patch := data.le16 18
    interfaceTag := Text.Utf8.lossy (data.slice 24 4)
    identity := ⟨Text.Field.read data 32 40, Text.Field.read data 80 20,
      Text.Field.read data 104 8⟩
    headerLength := headerLength
    bitmap := data.le32 118
    descriptors := descriptors
    fileSize := data.size }

/-- The descriptors and the bitmap, behind a header that is right so far. -/
def readTable (data : Bytes) : Except Error File :=
  let headerLength := data.le16 116
  let count := (data.le16 252).toNat
  let expected := headerSize + count * descriptorSize
  if (data.le16 254).toNat ≠ descriptorSize then
    .error (.parse s!"descriptor size {(data.le16 254).toNat} (expected {descriptorSize})")
  else if headerLength.toNat ≠ expected ∨ data.size < expected then
    .error (.parse s!"header length {headerLength.toNat} does not match {count} descriptor(s)")
  else
    match readDescriptors data expected count 0 with
    | .error e => .error e
    | .ok descriptors =>
      let seen := Kind.bitmap (descriptors.map Descriptor.kind)
      if seen ≠ data.le32 118 then .error (bitmapError (data.le32 118) seen)
      else .ok ⟨readSummary data headerLength descriptors, data⟩

def otherVersion (major minor patch : UInt16) : Error :=
  .notSupported s!"combined FARM version {major.toNat}.{minor.toNat}.{patch.toNat}"

def parse (data : Bytes) : Except Error File :=
  if data.size < headerSize then
    .error (.parse s!"{data.size} bytes is shorter than a FARM header")
  else if data.slice 0 16 ≠ signature.toUTF8 then
    .error (.parse "missing combined FARM signature")
  else if data.le16 22 ≠ majorVersion then
    .error (otherVersion (data.le16 22) (data.le16 20) (data.le16 18))
  else readTable data

/-- The payload of the first dataset of a kind. Its end is a word of 32 bits as well. -/
def payload? (f : File) (kind : Kind) : Option Bytes :=
  (f.summary.descriptors.find? fun d => d.kind == kind).map fun d =>
    f.data.extract d.offset.toNat (d.offset + d.length).toNat

end File
end DriveHealth.Farm
