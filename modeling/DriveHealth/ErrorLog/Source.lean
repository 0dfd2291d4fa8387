/-!
The three ATA error logs. The extended comprehensive log has 48-bit registers and is read page by
page; the other two have 28-bit registers, and the summary log is a single page.
-/
namespace DriveHealth.ErrorLog

inductive Source where
  | extended
  | comprehensive
  | summary
  deriving DecidableEq, Inhabited

namespace Source

def all : List Source := [extended, comprehensive, summary]

def entriesPerPage : Source → Nat
  | extended => 4
  | comprehensive | summary => 5

def isExtended : Source → Bool
  | extended => true
  | comprehensive | summary => false

def label : Source → String
  | extended => "Extended Comprehensive SMART Error Log"
  | comprehensive => "Comprehensive SMART Error Log"
  | summary => "Summary SMART Error Log"

def address : Source → UInt8
  | extended => 0x03
  | comprehensive => 0x02
  | summary => 0x01

/-- How many entries a log of so many pages can hold. -/
def capacity (s : Source) (pages : UInt16) : Nat :=
  match s with
  | summary => s.entriesPerPage
  | extended | comprehensive => pages.toNat * s.entriesPerPage

end Source
end DriveHealth.ErrorLog
