import DriveHealth.Bytes
import DriveHealth.Error
import DriveHealth.Program

/-!
What a program asks of a file system, and how paths are joined.
-/
namespace DriveHealth.Files

inductive Call where
  | read (path : String)
  | isDirectory (path : String)
  | present (path : String)
  | createDirectories (path : String)
  /-- Makes an empty file, or empties the one there is. -/
  | create (path : String)
  | append (path : String) (data : Bytes)
  deriving DecidableEq

def Call.Reply : Call → Type
  | read _ => Except SystemError Bytes
  | isDirectory _ | present _ => Bool
  | createDirectories _ | create _ | append _ _ => Except SystemError Unit

abbrev Access := Program Call Call.Reply

namespace Access

def read (path : String) : Access (Except SystemError Bytes) := Program.perform (Call.read path)

def isDirectory (path : String) : Access Bool := Program.perform (Call.isDirectory path)

def present (path : String) : Access Bool := Program.perform (Call.present path)

def createDirectories (path : String) : Access (Except SystemError Unit) :=
  Program.perform (Call.createDirectories path)

def create (path : String) : Access (Except SystemError Unit) := Program.perform (Call.create path)

def append (path : String) (data : Bytes) : Access (Except SystemError Unit) :=
  Program.perform (Call.append path data)

/-- A file that must be text. -/
def readText (path : String) : Access (Except SystemError String) :=
  (read path).bind fun r =>
    match r with
    | .error e => .done (.error e)
    | .ok data =>
      match String.fromUTF8? data with
      | some text => .done (.ok text)
      | none => .done (.error .invalidText)

/-- Creates or replaces a file. -/
def write (path : String) (data : Bytes) : Access (Except SystemError Unit) :=
  (create path).bind fun r =>
    match r with
    | .error e => .done (.error e)
    | .ok () => append path data

end Access

/-- A path below a directory; an absolute path stands for itself. -/
def join (directory path : String) : String :=
  if path.startsWith "/" then path
  else if directory.isEmpty || directory.endsWith "/" then directory ++ path
  else directory ++ "/" ++ path

end DriveHealth.Files
