import DriveHealth.CommandLine.Action
import DriveHealth.Files.Tree

/-!
A machine in memory that has files and no drives. Its nodes are files, which take no command, and
its clock stands still. It never runs out of memory.
-/
namespace DriveHealth.CommandLine

structure Machine where
  files : Files.Tree
  configDirectory : Option String
  time : Farm.LocalTime

namespace Machine

/-- What the system answers to a command on something that is no drive. -/
def noDrive : SystemError := .number 25

def nodeReply (m : Machine) (c : Node.Call) : c.Reply :=
  match c with
  | .openFile path writable => m.files.openItem path writable
  | .command _ => .error noDrive
  | .admin _ => .error noDrive
  | .clock => (0 : Nat)
  | .pause _ => ()

def answer (c : Call) (m : Machine) : c.Reply × Machine :=
  match c with
  | .files c => let (r, files) := Files.Tree.answer c m.files; (r, { m with files := files })
  | .node c => (m.nodeReply c, m)
  | .configDirectory => (m.configDirectory, m)
  | .localTime => (m.time, m)
  | .memory _ => (true, m)

/-- Carries out a command and answers what it left. -/
def run {α : Type} (m : Machine) (a : Action α) : α × Machine := Program.run answer a m

end Machine
end DriveHealth.CommandLine
