import DriveHealth.Node.PassThrough
import DriveHealth.Scsi.Sense

/-!
Running one command through a node. A command that the host adapter did not carry out, or that
the drive ended with an error, is a failed request; an error from which the drive recovered is
none.
-/
namespace DriveHealth.Node

def hostError (hostStatus : UInt16) : TransportError :=
  .other ("SG_IO host status 0x" ++ Text.hex 4 hostStatus.toNat)

def longestSense : Nat := 64

def Completion.senseBytes (c : Completion) : Bytes := c.sense.take longestSense

/-- The error that the codes in the sense data tell. -/
def Completion.error (c : Completion) : TransportError :=
  match Scsi.Sense.ofBytes? c.senseBytes with
  | some s => .sense s.key s.asc s.ascq
  | none => .other ("SCSI status 0x" ++ Text.hexByte c.status)

def recoveredError : UInt8 := 0x01

def Completion.recovered (c : Completion) : Bool :=
  match Scsi.Sense.ofBytes? c.senseBytes with
  | some s => s.key == recoveredError
  | none => false

/-- The length of the data phase less what was left over. -/
def Completion.transferred (c : Completion) (length : Nat) : Nat :=
  length - min c.residual.toNat length

/-- How a SCSI command ended, with the bytes transferred. -/
def Completion.scsiResult (c : Completion) (length : Nat) : Except TransportError Nat :=
  if c.hostStatus ≠ 0 then .error (hostError c.hostStatus)
  else if c.status ≠ 0 ∧ !c.recovered then .error c.error
  else .ok (c.transferred length)

/-- How an ATA command ended; registers that came back count more than the SCSI status. -/
def Completion.ataResult (c : Completion) :
    Except TransportError (Option Transport.TaskFile) :=
  if c.hostStatus ≠ 0 then .error (hostError c.hostStatus)
  else
    match ReturnDescriptor.ofSense? c.senseBytes with
    | some registers =>
      if registers.status &&& 0x01 ≠ 0 then .error (.ata registers.status registers.error)
      else .ok (some registers)
    | none => if c.status ≠ 0 then .error c.error else .ok none

/-- The failure of a command that the system did not carry out. -/
def refused (e : SystemError) : TransportError := .system e.named

def runScsi (c : Command) : Exchange (Except TransportError (Completion × Nat)) :=
  (Exchange.command c).bind fun r =>
    match r with
    | .error e => .done (.error (refused e))
    | .ok completion =>
      .done ((completion.scsiResult c.phase.size).map fun n => (completion, n))

/-- A command whose data phase fills a buffer. -/
def receive (cdb : List UInt8) (buffer : Bytes) (timeout : Nat) :
    Exchange (Except TransportError (Bytes × Nat)) :=
  (runScsi ⟨cdb, .fromDrive buffer, timeout⟩).bind fun r =>
    .done (r.map fun (completion, n) => (received completion.data buffer, n))

def send (cdb : List UInt8) (data : Bytes) (timeout : Nat) :
    Exchange (Except TransportError Unit) :=
  (runScsi ⟨cdb, .toDrive data, timeout⟩).bind fun r => .done (r.map fun _ => ())

def runAta (c : AtaCommand) (protocol : AtaProtocol) (returnRegisters : Bool)
    (phase : DataPhase) (timeout : Nat) :
    Exchange (Except TransportError (Completion × Option Transport.TaskFile)) :=
  (Exchange.command ⟨c.cdb protocol returnRegisters, phase, timeout⟩).bind fun r =>
    match r with
    | .error e => .done (.error (refused e))
    | .ok completion => .done (completion.ataResult.map fun registers => (completion, registers))

/-- An ATA command that fills a buffer. -/
def receiveAta (c : AtaCommand) (buffer : Bytes) (timeout : Nat) :
    Exchange (Except TransportError Bytes) :=
  (runAta c .pioIn false (.fromDrive buffer) timeout).bind fun r =>
    .done (r.map fun (completion, _) => received completion.data buffer)

def adminError (opcode : UInt8) (status : UInt32) : TransportError :=
  .other ("NVMe admin opcode 0x" ++ Text.hexByte opcode ++ " status 0x" ++ Text.hex 4 status.toNat)

def receiveAdmin (opcode : UInt8) (nsid dword10 dword11 : UInt32) (buffer : Bytes) :
    Exchange (Except TransportError Bytes) :=
  (Exchange.admin ⟨opcode, nsid, dword10, dword11, buffer, defaultTimeout⟩).bind fun r =>
    match r with
    | .error e => .done (.error (refused e))
    | .ok completion =>
      if completion.status ≠ 0 then .done (.error (adminError opcode completion.status))
      else .done (.ok (received completion.data buffer))

end DriveHealth.Node
