import DriveHealth.Bytes
import DriveHealth.Error
import DriveHealth.Program

/-!
What a device node asks of the kernel: to open it, to pass a SCSI command or an NVMe admin
command through it, the time, and a pause. The kernel answers a command with the bytes that the
drive sent and with the codes under which it ended.
-/
namespace DriveHealth.Node

/-- The length of a buffer as the kernel is told it, in a word of 32 bits. Of a longer buffer the
kernel knows no more than what is left of its length. -/
def lengthWord (buffer : Bytes) : UInt32 := .ofNat buffer.size

inductive DataPhase where
  | absent
  | fromDrive (buffer : Bytes)
  | toDrive (data : Bytes)
  deriving DecidableEq, Inhabited

def DataPhase.size : DataPhase → Nat
  | absent => 0
  | fromDrive buffer => buffer.size
  | toDrive data => data.size

/-- What the kernel is told of the length. -/
def DataPhase.length : DataPhase → UInt32
  | absent => 0
  | fromDrive buffer => lengthWord buffer
  | toDrive data => lengthWord data

structure Command where
  cdb : List UInt8
  phase : DataPhase
  /-- Milliseconds. -/
  timeout : Nat
  deriving DecidableEq, Inhabited

structure AdminCommand where
  opcode : UInt8
  nsid : UInt32
  dword10 : UInt32
  dword11 : UInt32
  buffer : Bytes
  /-- Milliseconds. -/
  timeout : Nat
  deriving DecidableEq, Inhabited

/-- What the kernel is told of the length. -/
def AdminCommand.length (c : AdminCommand) : UInt32 := lengthWord c.buffer

inductive Call where
  | openFile (path : String) (writable : Bool)
  | command (c : Command)
  | admin (c : AdminCommand)
  | clock
  | pause (milliseconds : Nat)
  deriving DecidableEq

structure Completion where
  status : UInt8
  hostStatus : UInt16
  /-- How many bytes of the data phase were not transferred. -/
  residual : Int
  sense : Bytes
  /-- What the drive sent. -/
  data : Bytes
  deriving DecidableEq, Inhabited

structure AdminCompletion where
  status : UInt32
  data : Bytes
  deriving DecidableEq, Inhabited

def Call.Reply : Call → Type
  | openFile _ _ => Except SystemError Unit
  | command _ => Except SystemError Completion
  | admin _ => Except SystemError AdminCompletion
  | clock => Nat
  | pause _ => Unit

/-- A conversation with the kernel about one node. -/
abbrev Exchange := Program Call Call.Reply

namespace Exchange

def openFile (path : String) (writable : Bool) : Exchange (Except SystemError Unit) :=
  Program.perform (Call.openFile path writable)

def command (c : Command) : Exchange (Except SystemError Completion) :=
  Program.perform (Call.command c)

def admin (c : AdminCommand) : Exchange (Except SystemError AdminCompletion) :=
  Program.perform (Call.admin c)

def clock : Exchange Nat := Program.perform Call.clock

def pause (milliseconds : Nat) : Exchange Unit := Program.perform (Call.pause milliseconds)

end Exchange

def defaultTimeout : Nat := 20000

def logTimeout : Nat := 60000

/-- Lays what was sent over the buffer, up to the length that the kernel was told. -/
def received (data buffer : Bytes) : Bytes :=
  let filled := data.take (lengthWord buffer).toNat
  filled ++ (buffer.extract filled.size buffer.size : Bytes)

end DriveHealth.Node
