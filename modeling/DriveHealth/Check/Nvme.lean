import DriveHealth.Nvme.Health
import DriveHealth.Nvme.Warning
import DriveHealth.Transport.Request
import DriveHealth.Verdict

/-!
The health of an NVMe drive: it fails when any bit of its critical warning byte is set.
-/
namespace DriveHealth.Check.Nvme

open DriveHealth.Nvme

def readPage : Session (Except TransportError Bytes) :=
  Session.nvmeLog Health.logPage Health.allNamespaces (.zeros Health.pageLength)

def readHealth : Session (Except Error Health) :=
  readPage.bind fun r =>
    match r with
    | .error e => .done (.error (.transport e))
    | .ok page =>
      match Health.ofPage? page with
      | some h => .done (.ok h)
      | none => .done (.error (.parse "short NVMe health page"))

def verdict (criticalWarning : UInt8) : CheckResult :=
  if criticalWarning = 0 then .ofStatus .pass
  else
    .tripped .fail
      ⟨.nvme, .criticalWarning criticalWarning,
        "; ".intercalate (Warning.reasons criticalWarning)⟩

def check : Session CheckResult :=
  readPage.bind fun r =>
    match r with
    | .ok page => .done (verdict (page.byteAt 0))
    | .error _ => .done (.ofStatus .unknown)

end DriveHealth.Check.Nvme
