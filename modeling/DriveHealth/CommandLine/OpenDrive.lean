import DriveHealth.Capture.Open
import DriveHealth.Check
import DriveHealth.CommandLine.Action
import DriveHealth.CommandLine.Failure
import DriveHealth.Node.Probe

/-!
The drive that a command works on. A directory is a capture and any other path a node. A captured
drive keeps its own state; the clock and the pauses are those of the machine for both.
-/
namespace DriveHealth.CommandLine

inductive OpenDrive where
  | capture (d : Capture.Device)
  | node (d : Drive)

namespace OpenDrive

def drive : OpenDrive → Drive
  | capture d => d.drive
  | node d => d

def setFamily (family : VendorFamily) : OpenDrive → OpenDrive
  | capture d => capture (d.setFamily family)
  | node d => node { d with family := family }

def answerCaptured (r : Request) (d : Capture.Device) : Action (r.Reply × OpenDrive) :=
  match r with
  | .clock => (Action.ofExchange Node.Exchange.clock).bind fun t => .done (t, capture d)
  | .pause milliseconds =>
    (Action.ofExchange (Node.Exchange.pause milliseconds)).bind fun u => .done (u, capture d)
  | r => .done ((Capture.Device.answer r d).1, capture (Capture.Device.answer r d).2)

def answer (r : Request) : OpenDrive → Action (r.Reply × OpenDrive)
  | capture d => answerCaptured r d
  | node d => (Action.ofExchange (Node.answer d.features r)).bind fun a => .done (a, node d)

/-- A session with the drive, whose state is given up. The memory for its buffers is taken to be
there. -/
def session {α : Type} (d : OpenDrive) (s : Session α) : Action α :=
  (s.interpretWith answer d).bind fun (a, _) => .done a

/-- Takes the memory for the buffer of a request, if it needs any. -/
def reserve (r : Request) : Action (Except Error Unit) :=
  match r.memory? with
  | none => .done (.ok ())
  | some bytes =>
    (Action.memory bytes).bind fun there =>
      .done (if there then .ok () else .error (.memoryFailure bytes))

/-- A session with the drive in which the memory for each buffer is taken just before the request
that fills it. The first buffer that there is no memory for ends the session. -/
def reserving {α : Type} : Session α → OpenDrive → Action (Except Error α)
  | Program.done a, _ => .done (.ok a)
  | Program.ask r next, d =>
    (reserve r).bind fun reserved =>
      match reserved with
      | .error e => .done (.error e)
      | .ok () => (answer r d).bind fun (reply, d) => reserving (next reply) d

/-- The health check of the drive. Failed requests end in a verdict like any others, so its only
error is a lack of memory. -/
def check (d : OpenDrive) (options : Check.Options) : Action (Except Error CheckResult) :=
  reserving (d.drive.check options) d

def readSmart (d : OpenDrive) : Action (Except Error SmartData) :=
  (reserving d.drive.readSmart d).bind fun r => .done (r.bind id)

def openCapture (path : String) : Action (Except Failure OpenDrive) :=
  (Action.ofAccess (Capture.openDirectory path)).bind fun r =>
    .done (r.mapError (Failure.during ("loading replay capture " ++ path)) |>.map capture)

def openNode (path : String) : Action (Except Failure OpenDrive) :=
  (Action.ofExchange (Node.openDrive path)).bind fun r =>
    .done (r.mapError (Failure.during ("opening " ++ path)) |>.map node)

def openPath (path : String) : Action (Except Failure OpenDrive) :=
  (Action.ofAccess (Files.Access.isDirectory path)).bind fun isDirectory =>
    if isDirectory then openCapture path else openNode path

/-- Takes a drive for one of a family. -/
def overridden (family : Option VendorFamily) (d : OpenDrive) : OpenDrive :=
  match family with
  | some family => d.setFamily family
  | none => d

def openAs (path : String) (family : Option VendorFamily) : Action (Except Failure OpenDrive) :=
  (openPath path).bind fun r => .done (r.map (overridden family))

end OpenDrive
end DriveHealth.CommandLine
