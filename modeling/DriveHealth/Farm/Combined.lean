import DriveHealth.Farm.Emission
import DriveHealth.Farm.Pull

/-!
Pulling the datasets of a drive into one combined file. The sink is opened once something has
been read, so a pull that yields nothing leaves nothing behind.
-/
namespace DriveHealth.Farm

/-- What a combined pull asks: the drive, for a sink for the file of a drive, or the open sink. -/
inductive CombinedCall where
  | drive (r : Request)
  | openSink (identity : Identity)
  | sink (c : SinkCall)

def CombinedCall.Reply : CombinedCall → Type
  | .drive r => r.Reply
  | .openSink _ => Except Error Unit
  | .sink c => c.Reply

abbrev Combined := Program CombinedCall CombinedCall.Reply

namespace Combined

def ofSession {α : Type} (s : Session α) : Combined α :=
  s.interpret fun r => Program.perform (CombinedCall.drive r)

def ofEmission {α : Type} (e : Emission α) : Combined α :=
  e.interpret fun c => Program.perform (CombinedCall.sink c)

def openSink (identity : Identity) : Combined (Except Error Unit) :=
  Program.perform (CombinedCall.openSink identity)

def nothingRead : Error := .failure "no FARM dataset could be read from the device"

def emitTo (d : Drive) (datasets : List Dataset) : Combined (Except Error Summary) :=
  (openSink d.identity).bind fun r =>
    match r with
    | .error e => .done (.error e)
    | .ok () => ofEmission (Emission.emit d.kind d.identity (inEmissionOrder datasets))

def pull (d : Drive) (options : PullOptions) : Combined (Except Error Summary) :=
  (ofSession (Farm.pull d options)).bind fun r =>
    match r with
    | .error e => .done (.error e)
    | .ok [] => .done (.error nothingRead)
    | .ok (first :: rest) => emitTo d (first :: rest)

end Combined
end DriveHealth.Farm
