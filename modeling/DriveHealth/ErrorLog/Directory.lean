import DriveHealth.Transport.Request

/-!
The log directory of an ATA drive: for each log address, the count of its pages. The word of
address zero holds the version of the directory instead.
-/
namespace DriveHealth.ErrorLog

structure Directory where
  version : UInt16
  /-- The page counts of the addresses from one on. -/
  counts : Vector UInt16 255

namespace Directory

def address : UInt8 := 0x00

def ofPage (page : Bytes) : Except Error Directory :=
  if page.size < Transport.sector then .error (.parse s!"log directory is {page.size} bytes")
  else .ok ⟨page.le16 0, .ofFn fun i => page.le16 (2 * (i + 1))⟩

def pages (d : Directory) (address : UInt8) : UInt16 :=
  if address = 0 then 0 else d.counts.toList.getD (address.toNat - 1) 0

/-- The addresses that have pages, in order, with their counts. -/
def present (d : Directory) : List (UInt8 × UInt16) :=
  (((List.range 256).map UInt8.ofNat).map fun a => (a, d.pages a)).filter fun e => e.2 != 0

def readGeneral : Session.Fallible Directory := do
  let page ← Session.require (Session.readLog address 0 0 0 (.zeros Transport.sector))
  Session.ofExcept (ofPage page)

def readSmart : Session.Fallible Directory := do
  let page ← Session.require (Session.smartReadLog address (.zeros Transport.sector))
  Session.ofExcept (ofPage page)

end Directory
end DriveHealth.ErrorLog
