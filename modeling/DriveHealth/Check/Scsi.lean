import DriveHealth.Scsi.Override
import DriveHealth.Scsi.Sense

/-!
The health of a SCSI drive: the codes in its exceptions log, or else those it reports to REQUEST
SENSE. A drive that would not report within the time allowed is switched over for as long as the
question takes. No failed request makes the check itself fail.
-/
namespace DriveHealth.Check

open Scsi Transport

structure Options where
  /-- The longest wait for a report, in milliseconds. -/
  waitLimit : Nat
  deriving DecidableEq, Inhabited

namespace Scsi

/-- No wait is longer than a second. -/
def longestWait : Nat := 1000

def logPage : UInt8 := 0x2F

def logBuffer : Nat := 64

def senseBuffer : Nat := 252

inductive ExceptionsLog where
  | codes (asc ascq : UInt8)
  /-- The log opens with another parameter than the general one. -/
  | foreign (parameter : UInt16)
  | unavailable
  deriving DecidableEq, Inhabited

def ExceptionsLog.ofReply (buffer : Bytes) (n : Nat) : ExceptionsLog :=
  if n < 10 ∨ buffer.byteAt 0 &&& 0x3F ≠ logPage then .unavailable
  else if buffer.be16 4 = 0 then .codes (buffer.byteAt 8) (buffer.byteAt 9)
  else .foreign (buffer.be16 4)

def readLog : Session ExceptionsLog :=
  (Session.logSense logPage 0 (.zeros logBuffer)).bind fun r =>
    match r with
    | .ok (buffer, n) => .done (.ofReply buffer n)
    | .error _ => .done .unavailable

def senseVerdict (b : Bytes) : CheckResult :=
  match Sense.ofBytes? b with
  | some s => s.verdict
  | none => .ofStatus .unknown

def askSense : Session CheckResult :=
  (Session.requestSense (.zeros senseBuffer)).bind fun r =>
    match r with
    | .ok (buffer, n) => .done (senseVerdict (buffer.extract 0 (min n senseBuffer)))
    | .error _ => .done (.ofStatus .unknown)

def wait (milliseconds : Nat) : Session Unit :=
  if milliseconds = 0 then .done () else Session.pause milliseconds

def askSenseAfter (milliseconds : Nat) : Session CheckResult :=
  (wait milliseconds).bind fun _ => askSense

/-- The saved page, or the current one if there is no saved one to read. -/
def savedOr (current : ExceptionsPage) : Session ExceptionsPage :=
  (ExceptionsPage.read .saved).bind fun r =>
    match r with
    | .ok saved => .done saved
    | .error _ => .done current

def askSwitchedOver (current : ExceptionsPage) (ceiling : Nat) : Session CheckResult :=
  (savedOr current).bind fun saved =>
    (Override.during current (current.withReportingOf saved) (askSenseAfter ceiling)).bind
      fun r =>
        match r with
        | .ok result => .done result
        | .error _ => .done (.ofStatus .unknown)

def askPage (options : Options) (current : ExceptionsPage) : Session CheckResult :=
  let ceiling := min options.waitLimit longestWait
  let natural := current.interval.toNat * 100
  if current.method = 0 then .done (.ofStatus .notSupported)
  else if current.method = ExceptionsPage.onRequest ∧ natural ≤ ceiling then askSenseAfter natural
  else askSwitchedOver current ceiling

def check (options : Options) : Session CheckResult :=
  readLog.bind fun log =>
    match log with
    | .codes asc ascq => .done (Sense.verdict ⟨0, asc, ascq⟩)
    | .foreign _ => .done (.ofStatus .unknown)
    | .unavailable =>
      (ExceptionsPage.read .current).bind fun r =>
        match r with
        | .ok current => askPage options current
        | .error _ => .done (.ofStatus .notSupported)

end Scsi
end DriveHealth.Check
