import DriveHealth.Drive
import DriveHealth.Node.Execute

/-!
The requests to a drive as commands through its node. A log of an ATA drive is read in chunks of
so many sectors at most, one behind the other, and the first chunk that fails ends the read. A
transfer whose length the command cannot tell is refused or shortened.
-/
namespace DriveHealth.Node

open Transport

def partialSectors (what : String) (length : Nat) : TransportError :=
  .other (what ++ " transfer of " ++ Text.decimal length ++ " bytes")

/-- The buffer behind the part of it that was filled. -/
def refill (buffer filled : Bytes) : Bytes :=
  filled ++ (buffer.extract filled.size buffer.size : Bytes)

namespace AtaLog

def defaultSectors : Nat := 128

def greatestCount : Nat := 65535

/-- The sectors of one command. -/
def perCommand (hint : UInt32) : Nat :=
  if hint = 0 then defaultSectors else min hint.toNat greatestCount

/-- The pieces of a buffer, all of the same length but the last. -/
def chunks (length : Nat) (buffer : Bytes) : List Bytes :=
  (List.range ((buffer.size + length - 1) / length)).map fun i => buffer.slice (i * length) length

/-- Reads chunk after chunk, from a page on. -/
def readChunks (log : UInt8) (feature : UInt16) :
    Nat → List Bytes → Exchange (Except TransportError Bytes)
  | _, [] => .done (.ok .empty)
  | page, chunk :: rest =>
    let sectors := chunk.size / sector
    (receiveAta (.readLog log page feature (.ofNat sectors)) chunk logTimeout).bind fun r =>
      match r with
      | .error e => .done (.error e)
      | .ok first =>
        (readChunks log feature (page + sectors) rest).bind fun r =>
          .done (r.map fun (more : Bytes) => (first ++ more : Bytes))

def read (log : UInt8) (page feature : UInt16) (hint : UInt32) (buffer : Bytes) :
    Exchange (Except TransportError Bytes) :=
  if buffer.size % sector ≠ 0 then .done (.error (partialSectors "log" buffer.size))
  else readChunks log feature page.toNat (chunks (perCommand hint * sector) buffer)

end AtaLog

namespace Smart

def readData : UInt16 := 0xD0

def readThresholds : UInt16 := 0xD1

def readLog : UInt16 := 0xD5

def returnStatus : UInt16 := 0xDA

/-- Whole sectors, at least one, by a SMART command. -/
def read (subcommand : UInt16) (log : UInt8) (buffer : Bytes) :
    Exchange (Except TransportError Bytes) :=
  if buffer.size % sector ≠ 0 ∨ buffer.size = 0 then
    .done (.error (partialSectors "SMART" buffer.size))
  else
    receiveAta (.smart subcommand (.ofNat (buffer.size / sector)) log) buffer defaultTimeout

/-- Only the first sector of the buffer is filled. -/
def readPage (subcommand : UInt16) (buffer : Bytes) : Exchange (Except TransportError Bytes) :=
  (read subcommand 0 (buffer.take sector)).bind fun r => .done (r.map (refill buffer))

def noRegisters : TransportError := .other "no ATA registers returned"

def askStatus : Exchange (Except TransportError TaskFile) :=
  (runAta (.smart returnStatus 0 0) .nonData true .absent defaultTimeout).bind fun r =>
    match r with
    | .error e => .done (.error e)
    | .ok (_, some registers) => .done (.ok registers)
    | .ok (_, none) => .done (.error noRegisters)

end Smart

namespace SctStatus

def log : UInt8 := 0xE0

/-- A page of a general purpose log if the drive has them, and of a SMART log otherwise. -/
def read (f : AtaFeatures) (buffer : Bytes) : Exchange (Except TransportError Bytes) :=
  let first := buffer.take sector
  (if f.gplSupported then AtaLog.read log 0 0 1 first else Smart.read Smart.readLog log first).bind
    fun r => .done (r.map (refill buffer))

end SctStatus

namespace ScsiLog

def greatestLength : Nat := 65535

/-- Reads no more than the length field can tell. -/
def sense (page subpage : UInt8) (buffer : Bytes) :
    Exchange (Except TransportError (Bytes × Nat)) :=
  let length := min buffer.size greatestLength
  (receive ([0x4D, 0, 0x40 ||| (page &&& 0x3F), subpage, 0, 0, 0] ++ Bytes.beDigits 2 length ++ [0])
    (buffer.take length) logTimeout).bind fun r =>
      .done (r.map fun (filled, n) => (refill buffer filled, n))

/-- The header of a log page tells the length of what follows it. -/
def size (page subpage : UInt8) : Exchange (Except TransportError Nat) :=
  (sense page subpage (.zeros 4)).bind fun r =>
    .done (r.map fun (header, _) => (header.be16 2).toNat + 4)

end ScsiLog

namespace Mode

def greatestLength : ModeForm → Nat
  | .six => 255
  | .ten => 65535

def pageByte (page : UInt8) (control : PageControl) : UInt8 :=
  (control.bits <<< 6) ||| (page &&& 0x3F)

/-- Block descriptors are not asked for. -/
def senseCdb (form : ModeForm) (page : UInt8) (control : PageControl) (length : Nat) :
    List UInt8 :=
  match form with
  | .six => [0x1A, 0x08, pageByte page control, 0, .ofNat length, 0]
  | .ten => [0x5A, 0x08, pageByte page control, 0, 0, 0, 0] ++ Bytes.beDigits 2 length ++ [0]

def sense (form : ModeForm) (page : UInt8) (control : PageControl) (buffer : Bytes) :
    Exchange (Except TransportError (Bytes × Nat)) :=
  let length := min buffer.size (greatestLength form)
  (receive (senseCdb form page control length) (buffer.take length) defaultTimeout).bind fun r =>
    .done (r.map fun (filled, n) => (refill buffer filled, n))

def selectCdb (form : ModeForm) (save : Bool) (length : Nat) : List UInt8 :=
  let flags : UInt8 := if save then 0x11 else 0x10
  match form with
  | .six => [0x15, flags, 0, 0, .ofNat length, 0]
  | .ten => [0x55, flags, 0, 0, 0, 0, 0] ++ Bytes.beDigits 2 length ++ [0]

def selectName : ModeForm → String
  | .six => "MODE SELECT(6)"
  | .ten => "MODE SELECT(10)"

def select (form : ModeForm) (data : Bytes) (save : Bool) :
    Exchange (Except TransportError Unit) :=
  if greatestLength form < data.size then
    .done (.error (.other (selectName form ++ s!" list of {data.size} bytes")))
  else send (selectCdb form save data.size) data defaultTimeout

end Mode

namespace RequestSense

def greatestLength : Nat := 252

def ask (buffer : Bytes) : Exchange (Except TransportError (Bytes × Nat)) :=
  let length := min buffer.size greatestLength
  (receive [0x03, 0, 0, 0, .ofNat length, 0] (buffer.take length) defaultTimeout).bind fun r =>
    .done (r.map fun (filled, n) => (refill buffer filled, n))

end RequestSense

namespace NvmeLog

def opcode : UInt8 := 0x02

/-- The length is told in words of four bytes, less one. -/
def read (log : UInt8) (nsid : UInt32) (buffer : Bytes) : Exchange (Except TransportError Bytes) :=
  let words := buffer.size / 4 % 2 ^ 32
  if words = 0 then .done (.error (.other "empty NVMe log transfer"))
  else
    receiveAdmin opcode nsid (.ofNat ((words - 1) % 65536 * 65536 + log.toNat))
      (.ofNat ((words - 1) / 65536)) buffer

end NvmeLog

/-- Answers a request through the node of a drive with these features. -/
def answer (f : AtaFeatures) (r : Request) : Exchange r.Reply :=
  match r with
  | .readLog log page feature hint buffer => AtaLog.read log page feature hint buffer
  | .smartReadLog log buffer => Smart.read Smart.readLog log buffer
  | .smartReadData buffer => Smart.readPage Smart.readData buffer
  | .smartReadThresholds buffer => Smart.readPage Smart.readThresholds buffer
  | .returnStatus => Smart.askStatus
  | .sctStatus buffer => SctStatus.read f buffer
  | .logSense page subpage buffer => ScsiLog.sense page subpage buffer
  | .logSenseSize page subpage => ScsiLog.size page subpage
  | .modeSense form page control buffer => Mode.sense form page control buffer
  | .modeSelect form data save => Mode.select form data save
  | .requestSense buffer => RequestSense.ask buffer
  | .nvmeLog log nsid buffer => NvmeLog.read log nsid buffer
  | .clock => Exchange.clock
  | .pause milliseconds => Exchange.pause milliseconds

/-- A session with a drive, through its node. -/
def exchange {α : Type} (f : AtaFeatures) (s : Session α) : Exchange α := s.interpret (answer f)

end DriveHealth.Node
