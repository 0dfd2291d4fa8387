import DriveHealth.Error
import DriveHealth.Drive

/-!
The verdict of a health check: a status, and for a warning or a failure the trip that caused it.
-/
namespace DriveHealth

inductive CheckStatus where
  | pass
  | warning
  | fail
  | unknown
  | notSupported
  deriving DecidableEq, Inhabited

namespace CheckStatus

def all : List CheckStatus := [pass, warning, fail, unknown, notSupported]

def code : CheckStatus → ReturnCode
  | pass => .success
  | warning => .inProgress
  | fail => .failure
  | unknown => .unknown
  | notSupported => .notSupported

def label : CheckStatus → String
  | pass => "PASS"
  | warning => "WARNING"
  | fail => "FAIL"
  | unknown => "UNKNOWN"
  | notSupported => "NOT SUPPORTED"

def severity : CheckStatus → Nat
  | notSupported => 0
  | unknown => 1
  | pass => 2
  | warning => 3
  | fail => 4

end CheckStatus

inductive StatusSource where
  | returnStatus
  | sctStatus
  deriving DecidableEq, Inhabited

inductive TripDetail where
  | attribute (id : UInt8) (name : Option String) (nominal worst threshold : UInt8)
      (prefail : Bool)
  | status (source : StatusSource)
  | sense (key asc ascq : UInt8)
  | criticalWarning (bits : UInt8)
  deriving DecidableEq, Inhabited

structure Trip where
  protocol : DriveKind
  detail : TripDetail
  reason : String
  deriving DecidableEq, Inhabited

structure CheckResult where
  status : CheckStatus
  trip : Option Trip := none
  deriving DecidableEq, Inhabited

namespace CheckResult

def ofStatus (s : CheckStatus) : CheckResult := ⟨s, none⟩

def tripped (s : CheckStatus) (t : Trip) : CheckResult := ⟨s, some t⟩

end CheckResult
end DriveHealth
