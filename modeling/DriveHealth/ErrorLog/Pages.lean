import DriveHealth.ErrorLog.Source
import DriveHealth.Transport.Request

/-!
The pages of an error log, read when they are first needed and then kept. The comprehensive log
can only be read from its start, so a page of it is the last sector of a longer read. A page that
cannot be read changes nothing.
-/
namespace DriveHealth.ErrorLog

structure Pages where
  loaded : List (UInt16 × Bytes) := []
  /-- Whether the bytes of every page that was read add up to zero. -/
  checksumValid : Bool := true
  deriving Inhabited

namespace Pages

def find? (c : Pages) (index : UInt16) : Option Bytes := c.loaded.lookup index

def count (c : Pages) : Nat := c.loaded.length

def add (c : Pages) (index : UInt16) (page : Bytes) : Pages :=
  { loaded := (index, page) :: c.loaded, checksumValid := c.checksumValid && page.checksumOk }

def noSuchPage (index : UInt16) : Error :=
  .badParameter s!"summary error log has no page {index.toNat}"

/-- Reads a page from the drive. -/
def fetch (source : Source) (index : UInt16) : Session.Fallible Bytes :=
  match source with
  | .extended =>
    Session.require (Session.readLog source.address index 0 0 (.zeros Transport.sector))
  | .comprehensive => do
    let sectors ← Session.require
      (Session.smartReadLog source.address (.zeros ((index.toNat + 1) * Transport.sector)))
    return sectors.slice (index.toNat * Transport.sector) Transport.sector
  | .summary =>
    if index = 0 then
      Session.require (Session.smartReadLog source.address (.zeros Transport.sector))
    else Session.ofExcept (.error (noSuchPage index))

/-- The page and the pages kept after it, or the error with the pages kept before. -/
def page (source : Source) (c : Pages) (index : UInt16) :
    Session (Except Error Bytes × Pages) :=
  match c.find? index with
  | some p => .done (.ok p, c)
  | none =>
    (fetch source index).run.bind fun r =>
      match r with
      | .ok p => .done (.ok p, c.add index p)
      | .error e => .done (.error e, c)

end Pages
end DriveHealth.ErrorLog
