import DriveHealth.Text.Blank

/-!
What a drive is: the command set it speaks, how it is attached, the vendor family that selects
the meaning of its attributes, its identity, and the capabilities it reports.
-/
namespace DriveHealth

inductive DriveKind where
  | ata
  | scsi
  | nvme
  deriving DecidableEq, Inhabited

namespace DriveKind

def name : DriveKind → String
  | ata => "ata"
  | scsi => "scsi"
  | nvme => "nvme"

def label : DriveKind → String
  | ata => "ATA"
  | scsi => "SCSI"
  | nvme => "NVMe"

/-- Four characters in the header of a combined file. -/
def tag : DriveKind → String
  | ata => "SATA"
  | scsi => "SAS "
  | nvme => "NVMe"

def all : List DriveKind := [ata, scsi, nvme]

def ofName? (s : String) : Option DriveKind := all.find? fun k => k.name == s

end DriveKind

inductive Attachment where
  | ide
  | sata
  | sas
  | usb
  | raid
  | nvme
  | unknown
  deriving DecidableEq, Inhabited

namespace Attachment

def name : Attachment → String
  | ide => "ide"
  | sata => "sata"
  | sas => "sas"
  | usb => "usb"
  | raid => "raid"
  | nvme => "nvme"
  | unknown => "unknown"

def all : List Attachment := [ide, sata, sas, usb, raid, nvme, unknown]

def ofName? (s : String) : Option Attachment := all.find? fun a => a.name == s

/-- An ATA drive attached in any other way sits behind a bridge. -/
def isIde : Attachment → Bool
  | ide | sata => true
  | _ => false

end Attachment

inductive VendorFamily where
  | seagate
  | seagateVendorB
  | seagateVendorC
  | seagateVendorD
  | seagateVendorE
  | seagateVendorF
  | seagateVendorG
  | seagateVendorK
  | seagateConner
  | seagateQuantum
  | samsung
  | maxtor
  | generic
  deriving DecidableEq, Inhabited

namespace VendorFamily

def all : List VendorFamily :=
  [seagate, seagateVendorB, seagateVendorC, seagateVendorD, seagateVendorE, seagateVendorF,
    seagateVendorG, seagateVendorK, seagateConner, seagateQuantum, samsung, maxtor, generic]

def name : VendorFamily → String
  | seagate => "seagate"
  | seagateVendorB => "seagate-vendor-b"
  | seagateVendorC => "seagate-vendor-c"
  | seagateVendorD => "seagate-vendor-d"
  | seagateVendorE => "seagate-vendor-e"
  | seagateVendorF => "seagate-vendor-f"
  | seagateVendorG => "seagate-vendor-g"
  | seagateVendorK => "seagate-vendor-k"
  | seagateConner => "seagate-conner"
  | seagateQuantum => "seagate-quantum"
  | samsung => "samsung"
  | maxtor => "maxtor"
  | generic => "default"

def ofName? (s : String) : Option VendorFamily := all.find? fun f => f.name == s

/-- Letter case, the blanks around the name and the choice of dash or underscore are free. -/
def parse (s : String) : Except String VendorFamily :=
  let wanted := (Text.trim s).map fun c => if c = '_' then '-' else c.toLower
  match ofName? wanted with
  | some f => .ok f
  | none => .error ("unknown vendor family '" ++ s ++ "'")

end VendorFamily

structure Identity where
  model : String := ""
  serial : String := ""
  firmware : String := ""
  deriving DecidableEq, Inhabited

structure FarmCapabilities where
  farm : Bool := false
  factory : Bool := false
  timeSeries : Bool := false
  longSaved : Bool := false
  sticky : Bool := false
  deriving DecidableEq, Inhabited

def FarmCapabilities.any (c : FarmCapabilities) : Bool :=
  c.farm || c.factory || c.timeSeries || c.longSaved || c.sticky

structure AtaFeatures where
  smartSupported : Bool := false
  smartEnabled : Bool := false
  smartErrorLogging : Bool := false
  gplSupported : Bool := false
  sctSupported : Bool := false
  deriving DecidableEq, Inhabited

/-- The facts about a drive that are known once it is open. -/
structure Drive where
  kind : DriveKind
  attachment : Attachment
  family : VendorFamily
  identity : Identity
  farm : FarmCapabilities
  features : AtaFeatures
  /-- The multiple to which a buffer must be rounded for a transfer. -/
  dmaAlignment : Nat
  /-- Whether SCSI commands reach the drive too. -/
  hasScsiView : Bool
  deriving Inhabited

end DriveHealth
