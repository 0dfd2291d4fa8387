import DriveHealth.SystemError

/-!
What can go wrong. A transport error is the failure of a single request to a drive, and an error
is what an operation of the library answers. Each cause has its wording in one place, and every
error falls under one return code.
-/
namespace DriveHealth

inductive TransportError where
  | system (cause : SystemError)
  | unsupported
  | sense (key asc ascq : UInt8)
  | ata (status error : UInt8)
  | shortTransfer (expected actual : Nat)
  | other (text : String)
  deriving DecidableEq, Inhabited

def TransportError.message : TransportError → String
  | system cause => "I/O error: " ++ cause.message
  | unsupported => "command not supported by the device or transport"
  | sense key asc ascq =>
    "check condition: sense key 0x" ++ Text.hexLower key.toNat ++ ", asc 0x" ++ Text.hexByte asc ++
      ", ascq 0x" ++ Text.hexByte ascq
  | ata status error =>
    "ATA command aborted: status 0x" ++ Text.hexByte status ++ ", error 0x" ++ Text.hexByte error
  | shortTransfer expected actual =>
    s!"short transfer: expected {expected} bytes, got {actual}"
  | other text => text

inductive ReturnCode where
  | success
  | notSupported
  | failure
  | memoryFailure
  | fileOpenError
  | writingFileError
  | badParameter
  | inProgress
  | unknown
  deriving DecidableEq, Inhabited

namespace ReturnCode

def all : List ReturnCode :=
  [success, notSupported, failure, memoryFailure, fileOpenError, writingFileError, badParameter,
    inProgress, unknown]

def label : ReturnCode → String
  | success => "SUCCESS"
  | notSupported => "NOT_SUPPORTED"
  | failure => "FAILURE"
  | memoryFailure => "MEMORY_FAILURE"
  | fileOpenError => "FILE_OPEN_ERROR"
  | writingFileError => "ERROR_WRITING_FILE"
  | badParameter => "BAD_PARAMETER"
  | inProgress => "IN_PROGRESS"
  | unknown => "UNKNOWN"

end ReturnCode

inductive Error where
  | notSupported (text : String)
  | failure (text : String)
  | memoryFailure (bytes : Nat)
  | fileOpen (path : String) (cause : SystemError)
  | write (cause : SystemError)
  | badParameter (text : String)
  | transport (cause : TransportError)
  | parse (text : String)
  deriving DecidableEq, Inhabited

namespace Error

def message : Error → String
  | notSupported text => "operation not supported: " ++ text
  | failure text => "operation failed: " ++ text
  | memoryFailure bytes => s!"unable to allocate {bytes} bytes"
  | fileOpen path cause => "failed to open " ++ path ++ ": " ++ cause.message
  | write cause => "failed to write output: " ++ cause.message
  | badParameter text => "bad parameter: " ++ text
  | transport cause => "transport request failed: " ++ cause.message
  | parse text => "malformed data: " ++ text

def code : Error → ReturnCode
  | notSupported _ => .notSupported
  | failure _ => .failure
  | memoryFailure _ => .memoryFailure
  | fileOpen _ _ => .fileOpenError
  | write _ => .writingFileError
  | badParameter _ => .badParameter
  | transport _ => .failure
  | parse _ => .failure

end Error
end DriveHealth
