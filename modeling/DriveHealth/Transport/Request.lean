import DriveHealth.Bytes
import DriveHealth.Error
import DriveHealth.Program

/-!
The requests that reach a drive, and the replies they allow. A request that reads carries the
buffer to fill, and the reply is that buffer with the bytes that arrived laid over it. The clock
and a pause are requests too, since a check may wait and a pull records times.
-/
namespace DriveHealth

namespace Transport

/-- The register values that a command without data returns. -/
structure TaskFile where
  error : UInt8 := 0
  count : UInt8 := 0
  lbaLow : UInt8 := 0
  lbaMid : UInt8 := 0
  lbaHigh : UInt8 := 0
  device : UInt8 := 0
  status : UInt8 := 0
  deriving DecidableEq, Inhabited

/-- Which copy of a mode page is meant. -/
inductive PageControl where
  | current
  | changeable
  | factory
  | saved
  deriving DecidableEq, Inhabited

namespace PageControl

def bits : PageControl → UInt8
  | current => 0
  | changeable => 1
  | factory => 2
  | saved => 3

def name : PageControl → String
  | current => "current"
  | changeable => "changeable"
  | factory => "default"
  | saved => "saved"

def all : List PageControl := [current, changeable, factory, saved]

def ofName? (s : String) : Option PageControl := all.find? fun c => c.name == s

end PageControl

/-- Mode commands come with six or with ten bytes, and their parameter lists differ. -/
inductive ModeForm where
  | six
  | ten
  deriving DecidableEq, Inhabited

def sector : Nat := 512

end Transport

open Transport in
inductive Request where
  | readLog (log : UInt8) (page feature : UInt16) (hint : UInt32) (buffer : Bytes)
  | smartReadLog (log : UInt8) (buffer : Bytes)
  | smartReadData (buffer : Bytes)
  | smartReadThresholds (buffer : Bytes)
  | returnStatus
  | sctStatus (buffer : Bytes)
  | logSense (page subpage : UInt8) (buffer : Bytes)
  | logSenseSize (page subpage : UInt8)
  | modeSense (form : ModeForm) (page : UInt8) (control : PageControl) (buffer : Bytes)
  | modeSelect (form : ModeForm) (data : Bytes) (save : Bool)
  | requestSense (buffer : Bytes)
  | nvmeLog (log : UInt8) (nsid : UInt32) (buffer : Bytes)
  | clock
  | pause (milliseconds : Nat)

/-- What a request may answer: the filled buffer, and for some the count of bytes that arrived. -/
def Request.Reply : Request → Type
  | .returnStatus => Except TransportError Transport.TaskFile
  | .logSense _ _ _ | .modeSense _ _ _ _ | .requestSense _ => Except TransportError (Bytes × Nat)
  | .logSenseSize _ _ => Except TransportError Nat
  | .modeSelect _ _ _ => Except TransportError Unit
  | .clock => Nat
  | .pause _ => Unit
  | .readLog _ _ _ _ _ | .smartReadLog _ _ | .smartReadData _ | .smartReadThresholds _
  | .sctStatus _ | .nvmeLog _ _ _ => Except TransportError Bytes

/-- The bytes of memory that are taken for the buffer of a request before it is made. The shorter
form of MODE SENSE uses the buffer that the longer one left, and the buffers of REQUEST SENSE and
of what reads no more than a header need no memory of their own. -/
def Request.memory? : Request → Option Nat
  | .modeSense .ten _ _ buffer => some buffer.size
  | .readLog _ _ _ _ buffer | .smartReadLog _ buffer | .smartReadData buffer
  | .smartReadThresholds buffer | .sctStatus buffer | .logSense _ _ buffer
  | .nvmeLog _ _ buffer => some buffer.size
  | .modeSense .six _ _ _ | .requestSense _ | .logSenseSize _ _ | .returnStatus
  | .modeSelect _ _ _ | .clock | .pause _ => none

abbrev Session := Program Request Request.Reply

namespace Session

def ask (r : Request) : Session (Request.Reply r) := Program.perform r

def readLog (log : UInt8) (page feature : UInt16) (hint : UInt32) (buffer : Bytes) :
    Session (Except TransportError Bytes) := ask (.readLog log page feature hint buffer)

def smartReadLog (log : UInt8) (buffer : Bytes) : Session (Except TransportError Bytes) :=
  ask (.smartReadLog log buffer)

def smartReadData (buffer : Bytes) : Session (Except TransportError Bytes) :=
  ask (.smartReadData buffer)

def smartReadThresholds (buffer : Bytes) : Session (Except TransportError Bytes) :=
  ask (.smartReadThresholds buffer)

def returnStatus : Session (Except TransportError Transport.TaskFile) := ask .returnStatus

def sctStatus (buffer : Bytes) : Session (Except TransportError Bytes) := ask (.sctStatus buffer)

def logSense (page subpage : UInt8) (buffer : Bytes) :
    Session (Except TransportError (Bytes × Nat)) := ask (.logSense page subpage buffer)

def logSenseSize (page subpage : UInt8) : Session (Except TransportError Nat) :=
  ask (.logSenseSize page subpage)

def modeSense (form : Transport.ModeForm) (page : UInt8) (control : Transport.PageControl)
    (buffer : Bytes) : Session (Except TransportError (Bytes × Nat)) :=
  ask (.modeSense form page control buffer)

def modeSelect (form : Transport.ModeForm) (data : Bytes) (save : Bool) :
    Session (Except TransportError Unit) := ask (.modeSelect form data save)

def requestSense (buffer : Bytes) : Session (Except TransportError (Bytes × Nat)) :=
  ask (.requestSense buffer)

def nvmeLog (log : UInt8) (nsid : UInt32) (buffer : Bytes) :
    Session (Except TransportError Bytes) := ask (.nvmeLog log nsid buffer)

def clock : Session Nat := ask .clock

def pause (milliseconds : Nat) : Session Unit := ask (.pause milliseconds)

/-- A session that may end in an error of the library. -/
abbrev Fallible := ExceptT Error Session

def ofTransport {α : Type} : Except TransportError α → Except Error α
  | .ok a => .ok a
  | .error e => .error (.transport e)

/-- Asks, and turns a failed request into an error. -/
def require {α : Type} (p : Session (Except TransportError α)) : Fallible α :=
  .mk (p.bind fun r => .done (ofTransport r))

/-- An answer computed without asking. -/
def ofExcept {α : Type} (r : Except Error α) : Fallible α := .mk (.done r)

end Session
end DriveHealth
