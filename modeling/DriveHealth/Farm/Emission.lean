import DriveHealth.Farm.Summary
import DriveHealth.Program

/-!
Writing a combined file to a sink. The sink is written piece by piece, flushed and closed. The
first call that fails ends the writing, and the sink is closed nevertheless.
-/
namespace DriveHealth.Farm

inductive SinkCall where
  | write (data : Bytes)
  | flush
  | close
  deriving DecidableEq

abbrev SinkCall.Reply (_ : SinkCall) : Type := Except SystemError Unit

abbrev Emission := Program SinkCall SinkCall.Reply

namespace Emission

/-- Zero bytes in pieces of at most 512. -/
def zeroPieces (n : Nat) : List Bytes :=
  List.replicate (n / Layout.alignment) (Bytes.zeros Layout.alignment) ++
    (if n % Layout.alignment = 0 then [] else [Bytes.zeros (n % Layout.alignment)])

def payloadPieces : List Dataset → List Placement → List Bytes
  | d :: r, p :: ps => d.payload :: zeroPieces p.padding ++ payloadPieces r ps
  | _, _ => []

/-- What is written, in order. -/
def pieces (l : Layout) (kind : DriveKind) (identity : Identity) (datasets : List Dataset) :
    List Bytes :=
  l.encodeHeader kind identity :: l.descriptors.map Descriptor.encode ++
    zeroPieces l.headerPadding ++ payloadPieces datasets l.placements

def call (c : SinkCall) : Emission (Except SystemError Unit) := Program.perform c

/-- Writes pieces until one is refused, and then flushes. -/
def writeAll : List Bytes → Emission (Except SystemError Unit)
  | [] => call .flush
  | piece :: r =>
    (call (.write piece)).bind fun result =>
      match result with
      | .ok () => writeAll r
      | .error e => .done (.error e)

/-- The first failure counts. -/
def outcome (written closed : Except SystemError Unit) (summary : Summary) :
    Except Error Summary :=
  match written, closed with
  | .error e, _ | .ok (), .error e => .error (.write e)
  | .ok (), .ok () => .ok summary

def emit (kind : DriveKind) (identity : Identity) (datasets : List Dataset) :
    Emission (Except Error Summary) :=
  match Layout.plan datasets with
  | .error e => .done (.error e)
  | .ok l =>
    (writeAll (pieces l kind identity datasets)).bind fun written =>
      (call .close).bind fun closed => .done (outcome written closed (l.summary kind identity))

end Emission
end DriveHealth.Farm
