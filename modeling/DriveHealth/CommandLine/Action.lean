import DriveHealth.Farm.FileName
import DriveHealth.Files.Call
import DriveHealth.Node.Call

/-!
What a command asks of the machine it runs on: its files, its nodes with the clock, the directory
of configurations, the local time and memory for buffers.
-/
namespace DriveHealth.CommandLine

inductive Call where
  | files (c : Files.Call)
  | node (c : Node.Call)
  | configDirectory
  | localTime
  /-- Memory for so many bytes. -/
  | memory (bytes : Nat)

def Call.Reply : Call → Type
  | files c => c.Reply
  | node c => c.Reply
  | configDirectory => Option String
  | localTime => Farm.LocalTime
  | memory _ => Bool

abbrev Action := Program Call Call.Reply

namespace Action

def ofAccess {α : Type} (a : Files.Access α) : Action α :=
  a.interpret fun c => Program.perform (Call.files c)

def ofExchange {α : Type} (e : Node.Exchange α) : Action α :=
  e.interpret fun c => Program.perform (Call.node c)

def configDirectory : Action (Option String) := Program.perform Call.configDirectory

def localTime : Action Farm.LocalTime := Program.perform Call.localTime

/-- Whether there was memory for so many bytes. -/
def memory (bytes : Nat) : Action Bool := Program.perform (Call.memory bytes)

end Action
end DriveHealth.CommandLine
