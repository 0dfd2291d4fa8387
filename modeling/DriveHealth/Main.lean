import DriveHealth.CommandLine.Machine
import DriveHealth.CommandLine.Run
import Std.Time

/-!
The program: its arguments go to the commands, and what a command asks is asked of the machine.
Nothing here can pass a command to a drive, so every node is answered for as a file that takes
none; captures and combined files need no node. Memory is never short.
-/
namespace DriveHealth.Host

open CommandLine

/-- The number under which the system knows an error. -/
def errorNumber? : IO.Error → Option UInt32
  | .alreadyExists _ n _ | .otherError n _ | .resourceBusy n _ | .resourceVanished n _
  | .unsupportedOperation n _ | .hardwareFault n _ | .unsatisfiedConstraints n _
  | .illegalOperation n _ | .protocolError n _ | .timeExpired n _ | .interrupted _ n _
  | .noFileOrDirectory _ n _ | .invalidArgument _ n _ | .permissionDenied _ n _
  | .resourceExhausted _ n _ | .inappropriateType _ n _ | .noSuchThing _ n _ => some n
  | .unexpectedEof | .userError _ => none

/-- Some calls answer the number negated. -/
def systemError (e : IO.Error) : SystemError :=
  match errorNumber? e with
  | some n => .number (if n.toInt32 < 0 then -n.toInt32 else n.toInt32)
  | none => .other (toString e)

/-- Runs an action on a path. The system takes a path only up to its first NUL, so a path that
holds one is never passed on. -/
def attempt {α : Type} (path : String) (a : IO α) : IO (Except SystemError α) := do
  if path.contains '\x00' then return .error .nulInPath
  try return .ok (← a) catch e => return .error (systemError e)

def openFile (path : String) (mode : IO.FS.Mode) : IO (Except SystemError IO.FS.Handle) :=
  attempt path (IO.FS.Handle.mk path mode)

/-- A directory can be opened but not read. -/
def isDirectory (path : String) : IO Bool := do
  match ← attempt path (do (← IO.FS.Handle.mk path .read).read 1) with
  | .error e => return e == Files.Tree.isADirectory
  | .ok _ => return false

/-- The failures to open a path that show that nothing is there. -/
def absences : List SystemError :=
  [.nulInPath, Files.Tree.noSuchFile, Files.Tree.notADirectory, Files.Tree.nameTooLong]

/-- Something is there if opening it does not fail for its absence. -/
def present (path : String) : IO Bool := do
  match ← openFile path .read with
  | .error e => return !absences.contains e
  | .ok _ => return true

def append (path : String) (data : Bytes) : IO Unit := do
  let h ← IO.FS.Handle.mk path .append
  h.write data
  h.flush

def filesReply (c : Files.Call) : IO c.Reply :=
  match c with
  | .read path => attempt path (IO.FS.readBinFile path)
  | .isDirectory path => isDirectory path
  | .present path => present path
  | .createDirectories path => attempt path (IO.FS.createDirAll path)
  | .create path => attempt path (IO.FS.writeBinFile path .empty)
  | .append path data => attempt path (append path data)

def milliseconds : IO Nat := do
  return (← Std.Time.Timestamp.now).toMillisecondsSinceUnixEpoch.val.toNat

def nodeReply (c : Node.Call) : IO c.Reply :=
  match c with
  | .openFile path writable => do
    return (← openFile path (if writable then .readWrite else .read)).map fun _ => ()
  | .command _ => return .error Machine.noDrive
  | .admin _ => return .error Machine.noDrive
  | .clock => milliseconds
  | .pause n => IO.sleep (.ofNat n)

/-- The directory that the environment names, if its path is absolute, or the one at home. -/
def configDirectory : IO (Option String) := do
  match ← IO.getEnv "XDG_CONFIG_HOME" with
  | some path => if path.startsWith "/" then return some path
  | none => pure ()
  return (← IO.getEnv "HOME").map fun home => Files.join home ".config"

def localTime : IO Farm.LocalTime := do
  let now ← Std.Time.PlainDateTime.now
  return ⟨now.date.year.toInt, now.date.month.val.toNat, now.date.day.val.toNat,
    now.time.hour.val.toNat, now.time.minute.val.toNat, now.time.second.val.toNat⟩

def reply (c : Call) : IO c.Reply :=
  match c with
  | .files c => filesReply c
  | .node c => nodeReply c
  | .configDirectory => configDirectory
  | .localTime => localTime
  | .memory _ => return true

def carryOut {α : Type} : Action α → IO α
  | .done a => return a
  | .ask c next => do carryOut (next (← reply c))

end DriveHealth.Host

def main (arguments : List String) : IO UInt32 := do
  let outcome ← DriveHealth.Host.carryOut (DriveHealth.CommandLine.run arguments)
  IO.print outcome.output
  IO.eprint outcome.errors
  return outcome.status.toUInt32
