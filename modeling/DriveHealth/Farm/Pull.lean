import DriveHealth.Drive
import DriveHealth.Farm.Dataset
import DriveHealth.Transport.Request

/-!
Pulling the datasets of a drive. What is read is planned from the capabilities before anything is
asked, and each planned read gives its own datasets, so a read that fails costs those only. An
ATA drive answers whole frames, some of which hold several datasets; a SCSI drive answers log
subpages, which are laid one behind the other. A buffer too long for the address space is refused;
any other memory is taken to be there.
-/
namespace DriveHealth.Farm

structure PullOptions where
  copy : Copy := .disc
  /-- Sectors of one transfer; zero leaves the choice to the transport. -/
  hint : UInt32 := 0
  deriving DecidableEq, Inhabited

/-- Bytes that arrived, and when they were asked for and had come, in milliseconds. -/
structure Reading where
  data : Bytes
  startTime : UInt64
  endTime : UInt64

namespace Pull

def unsupported : Error := .notSupported "device does not support FARM"

/-- No buffer reaches this size. -/
def addressSpace : Nat := 2 ^ 47

/-- The smallest multiple of the alignment that holds the bytes. -/
def bufferSize (length alignment : Nat) : Nat :=
  let unit := max alignment 1
  (length + unit - 1) / unit * unit

def buffer (length alignment : Nat) : Except Error Bytes :=
  let size := bufferSize length alignment
  if addressSpace ≤ size then .error (.memoryFailure size) else .ok (.zeros size)

/-- Times a request; a failed one answers nothing. -/
def timed (ask : Session (Except TransportError Bytes)) : Session (Option Reading) :=
  Session.clock.bind fun start =>
    ask.bind fun r =>
      match r with
      | .ok data => Session.clock.bind fun stop => .done (some ⟨data, .ofNat start, .ofNat stop⟩)
      | .error _ => .done none

namespace Ata

/-- A stretch of a log that is a dataset. -/
structure Part where
  kind : Kind
  offset : Nat
  length : Nat
  deriving DecidableEq, Inhabited

structure LogRead where
  log : UInt8
  feature : UInt16
  length : Nat
  parts : List Part
  deriving DecidableEq, Inhabited

def frame : Nat := 98304

def farmLog : UInt8 := 0xA6

def timeSeriesLog : UInt8 := 0xC6

def frames (kind : Kind) (first count : Nat) : Part := ⟨kind, first * frame, count * frame⟩

/-- A log that is one dataset as a whole. -/
def whole (log : UInt8) (feature : UInt16) (kind : Kind) (length : Nat) : LogRead :=
  ⟨log, feature, length, [⟨kind, 0, length⟩]⟩

/-- The frames of the time series are read at once. -/
def series (feature : UInt16) (parts : List Part) : LogRead :=
  ⟨timeSeriesLog, feature, 27 * frame, parts⟩

def farmReads : List LogRead :=
  [whole farmLog 0 .current frame, whole farmLog 3 .factory frame, whole farmLog 2 .save frame]

def discSeries : LogRead :=
  series 0 [frames .timeSeries 0 16, frames .longSave 16 2, frames .sticky 18 6]

def flashSeries : LogRead :=
  series 1
    [frames .current 0 1, frames .save 1 1, frames .timeSeries 2 16, frames .longSave 18 2,
      frames .sticky 20 6, frames .factory 26 1]

def workload : LogRead := whole timeSeriesLog 2 .workloadTrace 2097152

/-- The reads that the capabilities allow, in order. -/
def plan (c : FarmCapabilities) : Copy → Except Error (List LogRead)
  | .disc =>
    if c.farm || c.timeSeries then
      .ok ((if c.farm then farmReads else []) ++ (if c.timeSeries then [discSeries] else []) ++
        [workload])
    else .error unsupported
  | .flash =>
    if c.timeSeries then .ok [flashSeries, workload]
    else if c.farm then .error (.notSupported "flash FARM copy needs the time-series log")
    else .error unsupported

def Part.dataset (p : Part) (r : Reading) : Dataset :=
  ⟨p.kind, r.data.slice p.offset p.length, r.startTime, r.endTime⟩

def LogRead.datasets (l : LogRead) (r : Reading) : List Dataset := l.parts.map fun p => p.dataset r

/-- The datasets of one read, none if it fails. -/
def LogRead.pull (l : LogRead) (alignment : Nat) (hint : UInt32) :
    Session (Except Error (List Dataset)) :=
  match buffer l.length alignment with
  | .error e => .done (.error e)
  | .ok buffer =>
    (timed (Session.readLog l.log 0 l.feature hint buffer)).bind fun r =>
      match r with
      | some reading =>
        .done (.ok (l.datasets { reading with data := reading.data.take l.length }))
      | none => .done (.ok [])

def pullAll (alignment : Nat) (hint : UInt32) :
    List LogRead → Session (Except Error (List Dataset))
  | [] => .done (.ok [])
  | l :: r =>
    (l.pull alignment hint).bind fun first =>
      match first with
      | .error e => .done (.error e)
      | .ok a =>
        (pullAll alignment hint r).bind fun rest => .done (rest.map fun b => a ++ b)

def pull (d : Drive) (options : PullOptions) : Session (Except Error (List Dataset)) :=
  match plan d.farm options.copy with
  | .error e => .done (.error e)
  | .ok reads => pullAll d.dmaAlignment options.hint reads

end Ata

namespace Scsi

def logPage : UInt8 := 0x3D

/-- The subpages whose replies make a dataset. -/
structure Group where
  kind : Kind
  subpages : List UInt8
  deriving DecidableEq, Inhabited

/-- The subpages `first`, `first + 1`, and so on. -/
def subpagesFrom (first count : Nat) : List UInt8 :=
  (List.range count).map fun i => .ofNat (first + i)

def plan (c : FarmCapabilities) : List Group :=
  (if c.farm then [⟨.current, subpagesFrom 0x03 1⟩] else []) ++
    (if c.factory then [⟨.factory, subpagesFrom 0x04 1⟩] else []) ++
    (if c.timeSeries then [⟨.timeSeries, subpagesFrom 0x10 16⟩] else []) ++
    (if c.longSaved then [⟨.longSave, subpagesFrom 0xC0 2⟩] else []) ++
    (if c.sticky then [⟨.sticky, subpagesFrom 0xC2 6⟩] else [])

/-- A reply of a known size; the drive may say that less has come. -/
def readSubpage (subpage : UInt8) (size : Nat) (buffer : Bytes) : Session (Option Reading) :=
  timed <| (Session.logSense logPage subpage buffer).bind fun r =>
    .done (r.map fun reply => reply.1.take (min reply.2 size))

/-- Asks for the size first; a subpage of no size is passed over. -/
def pullSubpage (alignment : Nat) (subpage : UInt8) :
    Session (Except Error (Option Reading)) :=
  (Session.logSenseSize logPage subpage).bind fun r =>
    match r with
    | .error _ | .ok 0 => .done (.ok none)
    | .ok size =>
      match buffer size alignment with
      | .error e => .done (.error e)
      | .ok buffer => (readSubpage subpage size buffer).bind fun r => .done (.ok r)

/-- A dataset starts with the first reading and ends with the last one. -/
def extend (kind : Kind) (d : Option Dataset) (r : Reading) : Dataset :=
  match d with
  | none => ⟨kind, r.data, r.startTime, r.endTime⟩
  | some d => { d with payload := d.payload ++ r.data, endTime := r.endTime }

def pullSubpages (alignment : Nat) (kind : Kind) :
    Option Dataset → List UInt8 → Session (Except Error (Option Dataset))
  | d, [] => .done (.ok d)
  | d, subpage :: rest =>
    (pullSubpage alignment subpage).bind fun r =>
      match r with
      | .error e => .done (.error e)
      | .ok none => pullSubpages alignment kind d rest
      | .ok (some reading) => pullSubpages alignment kind (some (extend kind d reading)) rest

def pullAll (alignment : Nat) : List Group → Session (Except Error (List Dataset))
  | [] => .done (.ok [])
  | g :: r =>
    (pullSubpages alignment g.kind none g.subpages).bind fun first =>
      match first with
      | .error e => .done (.error e)
      | .ok d => (pullAll alignment r).bind fun rest => .done (rest.map fun l => d.toList ++ l)

def pull (d : Drive) : Session (Except Error (List Dataset)) :=
  if d.farm.any then pullAll d.dmaAlignment (plan d.farm) else .done (.error unsupported)

end Scsi
end Pull

/-- The datasets of a drive, in the order in which they were read. -/
def pull (d : Drive) (options : PullOptions) : Session (Except Error (List Dataset)) :=
  match d.kind with
  | .ata => Pull.Ata.pull d options
  | .scsi => Pull.Scsi.pull d
  | .nvme => .done (.error (.notSupported "FARM logs are not available on NVMe devices"))

end DriveHealth.Farm
