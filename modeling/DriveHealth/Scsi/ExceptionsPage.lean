import DriveHealth.Transport.Request

/-!
The informational exceptions control mode page, which says how and when a SCSI drive reports that
it expects to fail. A copy of it keeps the mode parameter header it came with, so that it can be
sent back in the same form with its reporting fields changed and nothing else.
-/
namespace DriveHealth.Scsi

open Transport

structure ExceptionsPage where
  form : ModeForm
  /-- The mode parameter header and the block descriptors. -/
  header : Bytes
  page : Bytes
  deriving DecidableEq, Inhabited

namespace ExceptionsPage

def code : UInt8 := 0x1C

def leastLength : Nat := 12

def bufferLength : Nat := 256

/-- The reporting method that answers only to REQUEST SENSE. -/
def onRequest : UInt8 := 6

def headerLength : ModeForm → Nat
  | .six => 4
  | .ten => 8

/-- The length that the header gives for the whole reply. -/
def totalLength (reply : Bytes) : ModeForm → Nat
  | .six => (reply.byteAt 0).toNat + 1
  | .ten => (reply.be16 0).toNat + 2

def descriptorLength (reply : Bytes) : ModeForm → Nat
  | .six => (reply.byteAt 3).toNat
  | .ten => (reply.be16 6).toNat

def formName : ModeForm → String
  | .six => "MODE SENSE(6)"
  | .ten => "MODE SENSE(10)"

def ofReply (reply : Bytes) (form : ModeForm) : Except Error ExceptionsPage :=
  if reply.size < headerLength form then
    .error (.parse (formName form ++ " reply shorter than its header"))
  else
    let start := headerLength form + descriptorLength reply form
    let page : Bytes := reply.extract start (min (totalLength reply form) reply.size)
    if page.size < leastLength ∨ page.byteAt 0 &&& 0x3F ≠ code then
      .error
        (.parse s!"informational exceptions page missing from {reply.size}-byte mode data")
    else .ok ⟨form, reply.extract 0 start, page⟩

/-- Asks with ten bytes, and with six if that is refused. -/
def read (control : PageControl) : Session (Except Error ExceptionsPage) :=
  (Session.modeSense .ten code control (.zeros bufferLength)).bind fun r =>
    match r with
    | .ok (buffer, n) => .done (ofReply (buffer.extract 0 n) .ten)
    | .error _ =>
      (Session.modeSense .six code control (.zeros bufferLength)).bind fun r =>
        match r with
        | .ok (buffer, n) => .done (ofReply (buffer.extract 0 n) .six)
        | .error e => .done (.error (.transport e))

/-- The reporting method, which shares its byte with bits of another meaning. -/
def method (p : ExceptionsPage) : UInt8 := p.page.byteAt 3 &&& 0x0F

/-- The interval between reports, in tenths of a second. -/
def interval (p : ExceptionsPage) : UInt32 := p.page.be32 4

def reportCount (p : ExceptionsPage) : UInt32 := p.page.be32 8

def withReporting (p : ExceptionsPage) (method : UInt8) (interval count : UInt32) :
    ExceptionsPage :=
  let mixed := (p.page.byteAt 3 &&& 0xF0) ||| (method &&& 0x0F)
  let page := p.page.setByte 3 mixed
  { p with page := (page.splice 4 (Bytes.be 4 interval.toNat)).splice 8 (Bytes.be 4 count.toNat) }

def withReportingOf (p other : ExceptionsPage) : ExceptionsPage :=
  p.withReporting other.method other.interval other.reportCount

/-- The header with its data length zeroed. -/
def selectHeader (p : ExceptionsPage) : Bytes :=
  match p.form with
  | .six => p.header.setByte 0 0
  | .ten => (p.header.setByte 0 0).setByte 1 0

/-- The page with its bit that tells of a saved copy cleared. -/
def selectPage (p : ExceptionsPage) : Bytes := p.page.setByte 0 (p.page.byteAt 0 &&& 0x7F)

/-- The parameter list of a MODE SELECT. -/
def selectData (p : ExceptionsPage) : Bytes := p.selectHeader ++ p.selectPage

def write (p : ExceptionsPage) (save : Bool) : Session (Except TransportError Unit) :=
  Session.modeSelect p.form p.selectData save

end ExceptionsPage
end DriveHealth.Scsi
