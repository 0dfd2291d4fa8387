import DriveHealth.Drive
import DriveHealth.ErrorLog.Directory
import DriveHealth.ErrorLog.Walk

/-!
Reading the error log of an ATA drive. Each log that the drive lists is tried, the most detailed
one first, until one can be read; the summary log is tried always. The memory for the pages is taken
to be there.
-/
namespace DriveHealth

/-- A log as it was read, the newest entry first. -/
structure ErrorLog where
  source : ErrorLog.Source
  header : ErrorLog.Header
  checksumValid : Bool
  /-- Whether a page could not be read, so that older entries are missing. -/
  truncated : Bool
  entries : List ErrorLog.NumberedEntry

namespace ErrorLog

def indexTooLarge (source : Source) (index capacity : Nat) : Error :=
  .parse s!"{source.label} index {index} exceeds ring capacity {capacity}"

/-- Reads one log, of which the directory lists so many pages. -/
def readSource (source : Source) (pages : UInt16) : Session (Except Error ErrorLog) :=
  (Pages.page source {} 0).bind fun (r, c) =>
    match r with
    | .error e => .done (.error e)
    | .ok first =>
      let header := Header.ofPage source.isExtended first
      let capacity := source.capacity pages
      if capacity < header.index.toNat then
        .done (.error (indexTooLarge source header.index.toNat capacity))
      else
        (Walk.ofHeader source header capacity c).bind fun w =>
          .done (.ok ⟨source, header, w.pages.checksumValid, w.truncated, w.entries⟩)

/-- The extended log, if the general purpose logs list pages of it. -/
def extendedCandidate (d : Drive) : Session (List (Source × UInt16)) :=
  if d.features.gplSupported then
    Directory.readGeneral.run.bind fun r =>
      match r with
      | .ok dir =>
        let pages := dir.pages Source.extended.address
        .done (if pages = 0 then [] else [(.extended, pages)])
      | .error _ => .done []
  else .done []

/-- The comprehensive log, if it is kept; a directory that cannot be read counts as one page. -/
def comprehensiveCandidate (d : Drive) : Session (List (Source × UInt16)) :=
  if d.features.smartErrorLogging then
    Directory.readSmart.run.bind fun r =>
      match r with
      | .ok dir =>
        let pages := dir.pages Source.comprehensive.address
        .done (if pages = 0 then [] else [(.comprehensive, pages)])
      | .error _ => .done [(.comprehensive, 1)]
  else .done []

def candidates (d : Drive) : Session (List (Source × UInt16)) :=
  (extendedCandidate d).bind fun a =>
    (comprehensiveCandidate d).bind fun b => .done (a ++ b ++ [(.summary, 1)])

/-- The first log that can be read. -/
def readFirst : List (Source × UInt16) → Session (Except Error ErrorLog)
  | [] => .done (.error (.notSupported "no SMART error log could be read"))
  | (source, pages) :: r =>
    (readSource source pages).bind fun result =>
      match result with
      | .ok log => .done (.ok log)
      | .error _ => readFirst r

def read (d : Drive) : Session (Except Error ErrorLog) :=
  if d.features.smartEnabled then (candidates d).bind readFirst
  else .done (.error (.notSupported "SMART is not enabled on this device"))

end ErrorLog
end DriveHealth
