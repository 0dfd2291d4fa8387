import DriveHealth.Farm.Emission

/-!
A sink in memory. It has room for so many bytes and refuses a piece that does not fit as a whole,
and flushing or closing it may fail. It remembers the calls.
-/
namespace DriveHealth.Farm

structure Sink where
  /-- The bytes that are still taken, if there is a limit. -/
  room : Option Nat := none
  flushFails : Bool := false
  closeFails : Bool := false
  data : Bytes := .empty
  /-- Each call, and whether it succeeded, newest first. -/
  calls : List (SinkCall × Bool) := []

namespace Sink

def called (s : Sink) (c : SinkCall) (succeeded : Bool) : Sink :=
  { s with calls := (c, succeeded) :: s.calls }

def noSpace : SystemError := .other "no space"

def flushFailed : SystemError := .other "flush failed"

def closeFailed : SystemError := .other "close failed"

def store (s : Sink) (piece : Bytes) : Sink :=
  { s with data := s.data ++ piece, room := s.room.map (· - piece.size) }

def fits (s : Sink) (piece : Bytes) : Bool :=
  match s.room with
  | some room => piece.size ≤ room
  | none => true

def answer (c : SinkCall) (s : Sink) : c.Reply × Sink :=
  match c with
  | .write piece =>
    if s.fits piece then (.ok (), (s.store piece).called (.write piece) true)
    else (.error noSpace, s.called (.write piece) false)
  | .flush =>
    if s.flushFails then (.error flushFailed, s.called .flush false)
    else (.ok (), s.called .flush true)
  | .close =>
    if s.closeFails then (.error closeFailed, s.called .close false)
    else (.ok (), s.called .close true)

end Sink
end DriveHealth.Farm
