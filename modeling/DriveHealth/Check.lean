import DriveHealth.Check.Ata
import DriveHealth.Check.Nvme

/-!
The health check of a drive of any kind, and what it says of itself in detail. Both are what is
asked of the drive, and end by its replies alone; the memory for the buffers is the matter of
whoever runs them.
-/
namespace DriveHealth

def Drive.check (d : Drive) (options : Check.Options) : Session CheckResult :=
  match d.kind with
  | .ata => Check.Ata.check d options
  | .scsi => Check.Scsi.check options
  | .nvme => Check.Nvme.check

/-- What a drive says of itself in detail: attributes, or a health page. -/
inductive SmartData where
  | ata (table : Attribute.Table)
  | nvme (health : Nvme.Health)

def Drive.readSmart (d : Drive) : Session (Except Error SmartData) :=
  match d.kind with
  | .ata =>
    (Attribute.Table.read d.features).bind fun r => .done (r.map SmartData.ata)
  | .nvme => Check.Nvme.readHealth.bind fun r => .done (r.map SmartData.nvme)
  | .scsi => .done (.error (.notSupported "SCSI devices have no attribute table"))

end DriveHealth
