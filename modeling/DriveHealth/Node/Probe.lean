import DriveHealth.ErrorLog.Directory
import DriveHealth.Farm.Pull
import DriveHealth.Node.Answer
import DriveHealth.Text.Field

/-!
Opening the node of a drive and finding out what the drive is. A node named for NVMe is asked to
identify its controller. Any other node is sent an INQUIRY and then IDENTIFY DEVICE: a drive that
answers both is an ATA drive, directly or behind a bridge, and one that answers only the first is
a SCSI drive.
-/
namespace DriveHealth.Node

/-- The last name in a path, unless the path ends by going up or has no name. -/
def fileName? (path : String) : Option String :=
  match ((path.splitOn "/").filter fun part => part != "" && part != ".").getLast? with
  | some ".." | none => none
  | some name => some name

def isNvme (path : String) : Bool :=
  match fileName? path with
  | some name => name.startsWith "nvme"
  | none => false

/-- The family that a model name suggests. -/
def familyOf (model : String) : VendorFamily :=
  let upper := model.map Char.toUpper
  if upper.startsWith "ST" then .seagate
  else if (upper.splitOn "SAMSUNG").length ≠ 1 then .samsung
  else if upper.startsWith "MAXTOR" then .maxtor
  else .generic

/-- What a probe finds. -/
structure Finding where
  kind : DriveKind
  attachment : Attachment
  identity : Identity
  features : AtaFeatures := {}
  farm : FarmCapabilities := {}
  deriving DecidableEq, Inhabited

/-- Every node takes SCSI commands. -/
def Finding.drive (f : Finding) : Drive :=
  { kind := f.kind, attachment := f.attachment, family := familyOf f.identity.model
    identity := f.identity, farm := f.farm, features := f.features
    dmaAlignment := Transport.sector, hasScsiView := true }

namespace Probe

def controllerIdentity (page : Bytes) : Identity :=
  { serial := Text.Field.read page 4 20, model := Text.Field.read page 24 40
    firmware := Text.Field.read page 64 8 }

def nvme : Exchange (Except Error Finding) :=
  (receiveAdmin 0x06 0 1 0 (.zeros 4096)).bind fun r =>
    match r with
    | .error e => .done (.error (.transport e))
    | .ok page => .done (.ok ⟨.nvme, .nvme, controllerIdentity page, {}, {}⟩)

namespace Ata

def word (page : Bytes) (i : Nat) : UInt16 := page.le16 (2 * i)

def hasBit (page : Bytes) (i : Nat) (mask : UInt16) : Bool := word page i &&& mask != 0

def identity (page : Bytes) : Identity :=
  { serial := Text.Field.readSwapped page 20 20, firmware := Text.Field.readSwapped page 46 8
    model := Text.Field.readSwapped page 54 40 }

def features (page : Bytes) : AtaFeatures :=
  { smartSupported := hasBit page 82 0x0001
    smartEnabled := hasBit page 85 0x0001
    smartErrorLogging := hasBit page 84 0x0001 || hasBit page 87 0x0001
    gplSupported := hasBit page 84 0x0020 || hasBit page 87 0x0020
    sctSupported := hasBit page 206 0x0001 }

/-- The capabilities that the log directory shows. -/
def capabilities (d : ErrorLog.Directory) : FarmCapabilities :=
  let farm := d.pages Farm.Pull.Ata.farmLog != 0
  let series := d.pages Farm.Pull.Ata.timeSeriesLog != 0
  ⟨farm, farm, series, series, series⟩

def farm (f : AtaFeatures) : Exchange FarmCapabilities :=
  if f.gplSupported then
    (exchange f ErrorLog.Directory.readGeneral.run).bind fun r =>
      match r with
      | .ok d => .done (capabilities d)
      | .error _ => .done {}
  else .done {}

/-- A drive that calls itself otherwise sits behind a bridge. -/
def attachment (vendor : String) : Attachment := if vendor = "ATA" then .sata else .usb

def finding (vendor : String) (page : Bytes) : Exchange Finding :=
  (farm (features page)).bind fun capabilities =>
    .done ⟨.ata, attachment vendor, identity page, features page, capabilities⟩

end Ata

namespace Scsi

def inquiryCdb (vital : Bool) (page : UInt8) (length : Nat) : List UInt8 :=
  [0x12, if vital then 1 else 0, page, 0, .ofNat length, 0]

/-- The serial number in the vital product data, empty if there is none. -/
def serial : Exchange String :=
  (receive (inquiryCdb true 0x80 252) (.zeros 252) defaultTimeout).bind fun r =>
    match r with
    | .error _ => .done ""
    | .ok (page, n) => .done (Text.Field.read page 4 (min (page.byteAt 3).toNat (n - 4)))

/-- The subpages of the datasets in the list of supported log subpages. -/
def subpages : List UInt8 → List UInt8
  | page :: subpage :: rest =>
    if page &&& 0x3F = Farm.Pull.Scsi.logPage then subpage :: subpages rest else subpages rest
  | _ => []

def capabilities (supported : List UInt8) : FarmCapabilities :=
  let offers (first count : Nat) : Bool :=
    (Farm.Pull.Scsi.subpagesFrom first count).any fun s => supported.contains s
  { farm := offers 0x03 1, factory := offers 0x04 1, timeSeries := offers 0x10 16
    longSaved := offers 0xC0 2, sticky := offers 0xC2 6 }

def farm : Exchange FarmCapabilities :=
  (ScsiLog.sense 0x00 0xFF (.zeros 1024)).bind fun r =>
    match r with
    | .error _ => .done {}
    | .ok (buffer, n) =>
      let list : Bytes := buffer.extract 4 (min ((buffer.be16 2).toNat + 4) n)
      .done (capabilities (subpages list.data.toList))

def finding (vendor : String) (inquiry : Bytes) : Exchange Finding :=
  serial.bind fun serial =>
    farm.bind fun capabilities =>
      let model := Text.trim (vendor ++ " " ++ Text.Field.read inquiry 16 16)
      .done ⟨.scsi, .sas, ⟨model, serial, Text.Field.read inquiry 32 4⟩, {}, capabilities⟩

end Scsi

/-- The bytes of an INQUIRY reply that name the drive. -/
def leastInquiry : Nat := 36

/-- Behind the vendor name, IDENTIFY DEVICE decides what the drive is. -/
def identify (inquiry : Bytes) : Exchange Finding :=
  let vendor := Text.Field.read inquiry 8 8
  (receiveAta .identify (.zeros Transport.sector) defaultTimeout).bind fun r =>
    match r with
    | .ok page => Ata.finding vendor page
    | .error _ => Scsi.finding vendor inquiry

def ataOrScsi : Exchange (Except Error Finding) :=
  (receive (Scsi.inquiryCdb false 0 96) (.zeros 96) defaultTimeout).bind fun r =>
    match r with
    | .error e => .done (.error (.transport e))
    | .ok (inquiry, n) =>
      if n < leastInquiry then .done (.error (.parse s!"INQUIRY returned {n} bytes"))
      else (identify inquiry).bind fun f => .done (.ok f)

end Probe

def probe (path : String) : Exchange (Except Error Finding) :=
  if isNvme path then Probe.nvme else Probe.ataOrScsi

/-- Opens a node to read and write, or else to read; the second failure is the one told. -/
def openFile (path : String) : Exchange (Except SystemError Unit) :=
  (Exchange.openFile path true).bind fun r =>
    match r with
    | .ok () => .done (.ok ())
    | .error _ => Exchange.openFile path false

def openDrive (path : String) : Exchange (Except Error Drive) :=
  (openFile path).bind fun r =>
    match r with
    | .error e => .done (.error (.fileOpen path e))
    | .ok () => (probe path).bind fun r => .done (r.map Finding.drive)

end DriveHealth.Node
