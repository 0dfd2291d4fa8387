import DriveHealth.Capture.Key
import DriveHealth.Capture.Manifest
import DriveHealth.Transport.Request

/-!
A captured drive. It answers a request from the page that was captured for it, refuses what its
manifest says, and takes a MODE SELECT by replacing the mode page that it names. It remembers what
was asked.
-/
namespace DriveHealth.Capture

open Transport

/-- What a captured drive remembers of a request. -/
inductive Asked where
  | page (key : Key)
  | size (key : Key)
  | returnStatus
  | refusedModeSense (code : UInt8)
  | modeSelect (form : ModeForm) (save : Bool)
  deriving DecidableEq

def Asked.text : Asked → String
  | page key => key.text
  | size key => "size:" ++ key.text
  | returnStatus => "smart-return-status"
  | refusedModeSense code => "mode-sense-10:" ++ Text.hexByte code
  | modeSelect form save =>
    (match form with | .six => "mode-select-6" | .ten => "mode-select-10") ++
      (if save then ":save=true" else ":save=false")

structure Device where
  manifest : Manifest
  pages : List (Key × Bytes)
  /-- The pages that MODE SELECT wrote, and whether saved, newest first. -/
  selects : List (Bytes × Bool) := []
  /-- Newest first. -/
  asked : List Asked := []

namespace Device

def find? (d : Device) (key : Key) : Option Bytes := d.pages.lookup key

def setPage (l : List (Key × Bytes)) (key : Key) (page : Bytes) : List (Key × Bytes) :=
  match l with
  | [] => [(key, page)]
  | (k, p) :: r => if k = key then (key, page) :: r else (k, p) :: setPage r key page

def remember (d : Device) (a : Asked) : Device := { d with asked := a :: d.asked }

/-- The page of a key; the request is remembered whether or not there is one. -/
def fetch (d : Device) (key : Key) : Except TransportError Bytes × Device :=
  match d.find? key with
  | some page => (.ok page, d.remember (.page key))
  | none => (.error .unsupported, d.remember (.page key))

def misaligned (d : Device) (len : Nat) : Bool :=
  d.manifest.restrictions.alignment != 0 && len % d.manifest.restrictions.alignment != 0

def misalignedError (d : Device) (len : Nat) : TransportError :=
  .other s!"{len}-byte transfer is not a multiple of {d.manifest.restrictions.alignment}"

/-- Fills the whole buffer from an offset of a page, or fails. -/
def cut (page : Bytes) (off : Nat) (buffer : Bytes) : Except TransportError Bytes :=
  if page.size < off + buffer.size then .error (.shortTransfer buffer.size (page.size - off))
  else .ok (page.slice off buffer.size)

def fill (d : Device) (key : Key) (off : Nat) (buffer : Bytes) :
    Except TransportError Bytes × Device :=
  let (r, d) := d.fetch key
  (r.bind fun page => cut page off buffer, d)

/-- Lays as much of a reply over the buffer as fits. -/
def deliver (reply buffer : Bytes) : Bytes × Nat :=
  let n := min reply.size buffer.size
  (reply.extract 0 n ++ buffer.extract n buffer.size, n)

def readLog (d : Device) (log : UInt8) (page feature : UInt16) (buffer : Bytes) :
    Except TransportError Bytes × Device :=
  if d.misaligned buffer.size then (.error (d.misalignedError buffer.size), d)
  else d.fill (.ataLog log feature) (page.toNat * sector) buffer

def logSense (d : Device) (page subpage : UInt8) (buffer : Bytes) :
    Except TransportError (Bytes × Nat) × Device :=
  if d.misaligned buffer.size then (.error (d.misalignedError buffer.size), d)
  else
    let (r, d) := d.fetch (.scsiLog page subpage)
    (r.map fun reply => deliver reply buffer, d)

def logSenseSize (d : Device) (page subpage : UInt8) : Except TransportError Nat × Device :=
  let key := Key.scsiLog page subpage
  let size :=
    match d.find? key with
    | some page => .ok (page.size % 2 ^ 32)
    | none => .error .unsupported
  (size, d.remember (.size key))

def refused (asc : UInt8) : TransportError := .sense 5 asc 0

def modeHeader (form : ModeForm) (len : Nat) : Bytes :=
  match form with
  | .six => Bytes.ofList [.ofNat (len + 3), 0, 0, 0]
  | .ten => Bytes.be 2 (len + 6) ++ Bytes.zeros 6

def modeKey (page : UInt8) (control : PageControl) : Key := .scsiMode page (control == .saved)

def modeSense (d : Device) (form : ModeForm) (page : UInt8) (control : PageControl)
    (buffer : Bytes) : Except TransportError (Bytes × Nat) × Device :=
  if form = .ten ∧ d.manifest.restrictions.noModeTen then
    (.error (refused 0x20), d.remember (.refusedModeSense page))
  else
    let (r, d) := d.fetch (modeKey page control)
    (r.map fun body => deliver (modeHeader form body.size ++ body) buffer, d)

/-- Where the page starts in a parameter list, behind the header and the block descriptors. -/
def selectStart (form : ModeForm) (data : Bytes) : Nat :=
  match form with
  | .six => 4 + (data.byteAt 3).toNat
  | .ten => 8 + (data.be16 6).toNat

def headerLength : ModeForm → Nat
  | .six => 4
  | .ten => 8

def store (d : Device) (page : Bytes) (save : Bool) : Device :=
  let code := page.byteAt 0 &&& 0x3F
  let pages := setPage d.pages (.scsiMode code false) page
  { d with
    pages := if save then setPage pages (.scsiMode code true) page else pages
    selects := (page, save) :: d.selects }

def modeSelect (d : Device) (form : ModeForm) (data : Bytes) (save : Bool) :
    Except TransportError Unit × Device :=
  let d := d.remember (.modeSelect form save)
  if form = .ten ∧ d.manifest.restrictions.noModeTen then (.error (refused 0x20), d)
  else if save ∧ d.manifest.restrictions.saveRefused then (.error (refused 0x26), d)
  else if data.size < headerLength form then
    (.error (.shortTransfer (headerLength form) data.size), d)
  else
    let start := selectStart form data
    if data.size ≤ start then (.error (.shortTransfer (start + 2) data.size), d)
    else (.ok (), d.store (data.extract start data.size) save)

def requestSense (d : Device) (buffer : Bytes) :
    Except TransportError (Bytes × Nat) × Device :=
  let (r, d) := d.fetch .requestSense
  (r.map fun reply => deliver reply buffer, d)

/-- The signature bytes of the manifest, in the registers of a finished command. -/
def returnStatus (d : Device) : Except TransportError TaskFile × Device :=
  let r :=
    match d.manifest.returnStatus with
    | some (mid, high) => .ok { lbaMid := mid, lbaHigh := high, status := 0x50 }
    | none => .error .unsupported
  (r, d.remember .returnStatus)

/-- Answers a request. The clock of a capture stands still. -/
def answer (r : Request) (d : Device) : r.Reply × Device :=
  match r with
  | .readLog log page feature _ buffer => d.readLog log page feature buffer
  | .smartReadLog log buffer => d.fill (.smartLog log) 0 buffer
  | .smartReadData buffer => d.fill .smartData 0 buffer
  | .smartReadThresholds buffer => d.fill .smartThresholds 0 buffer
  | .returnStatus => d.returnStatus
  | .sctStatus buffer => d.fill .sctStatus 0 buffer
  | .logSense page subpage buffer => d.logSense page subpage buffer
  | .logSenseSize page subpage => d.logSenseSize page subpage
  | .modeSense form page control buffer => d.modeSense form page control buffer
  | .modeSelect form data save => d.modeSelect form data save
  | .requestSense buffer => d.requestSense buffer
  | .nvmeLog log _ buffer => d.fill (.nvmeLog log) 0 buffer
  | .clock => ((0 : Nat), d)
  | .pause _ => ((), d)

def setFamily (d : Device) (family : VendorFamily) : Device :=
  { d with manifest := { d.manifest with family := family } }

def drive (d : Device) : Drive := d.manifest.drive

def run {α : Type} (d : Device) (s : Session α) : α × Device := Program.run answer s d

end Device
end DriveHealth.Capture
