import DriveHealth.CommandLine.OpenDrive
import DriveHealth.Farm.Combined

/-!
Pulling the datasets of an open drive into a file. The file is named for the drive and the local
time, and it is created only once something has been read. The memory for the datasets is taken to
be there.
-/
namespace DriveHealth.CommandLine

/-- The drive, and the path of the file once it is open. -/
structure Pulling where
  drive : OpenDrive
  path : String := ""

namespace Pulling

/-- Creates the file for a drive in a directory. -/
def openFile (directory : String) (identity : Identity) (p : Pulling) :
    Action (Except Error Unit × Pulling) :=
  Action.localTime.bind fun time =>
    let path := Files.join directory (Farm.FileName.ofSerial identity.serial time)
    (Action.ofAccess (Files.Access.create path)).bind fun r =>
      .done (r.mapError (Error.fileOpen path), { p with path := path })

def sink (c : Farm.SinkCall) (p : Pulling) : Action (c.Reply × Pulling) :=
  match c with
  | .write data =>
    (Action.ofAccess (Files.Access.append p.path data)).bind fun r => .done (r, p)
  | .flush | .close => .done (.ok (), p)

def answer (directory : String) (c : Farm.CombinedCall) (p : Pulling) :
    Action (c.Reply × Pulling) :=
  match c with
  | .drive r => (p.drive.answer r).bind fun (a, d) => .done (a, { p with drive := d })
  | .openSink identity => openFile directory identity p
  | .sink c => sink c p

/-- Pulls the datasets of a drive into a file in a directory, and answers its path too. -/
def pull (directory : String) (d : OpenDrive) (options : Farm.PullOptions) :
    Action (Except Error (String × Farm.Summary)) :=
  ((Farm.Combined.pull d.drive options).interpretWith (answer directory) { drive := d }).bind
    fun (r, p) => .done (r.map fun s => (p.path, s))

end Pulling
end DriveHealth.CommandLine
