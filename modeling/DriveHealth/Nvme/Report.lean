import DriveHealth.Nvme.Health
import DriveHealth.Units

/-!
The health page of an NVMe drive as text, one labelled quantity a line. The sensors are numbered
in the order in which they report.
-/
namespace DriveHealth.Nvme.Health

def column (label value : String) : String := Text.padRight 29 label ++ value

def volume (label : String) (units bytes : Nat) : String :=
  column label (Text.decimal units ++ " [" ++ Units.bytes bytes ++ "]")

def count (label : String) (n : Nat) : String := column label (Text.decimal n)

def sensorLines : Nat → List UInt16 → List String
  | _, [] => []
  | k, t :: r =>
    (s!"Temperature Sensor {k}:        " ++ Units.temperature (celsius t)) ::
      sensorLines (k + 1) r

def lines (h : Health) : List String :=
  [column "Critical Warning:" ("0x" ++ Text.hexByte h.criticalWarning),
    column "Composite Temperature:" (Units.temperature h.temperature),
    column "Available Spare:" s!"{h.availableSpare.toNat}%",
    column "Available Spare Threshold:" s!"{h.availableSpareThreshold.toNat}%",
    column "Percentage Used:" s!"{h.percentageUsed.toNat}%",
    volume "Data Units Read:" h.dataUnitsRead h.bytesRead,
    volume "Data Units Written:" h.dataUnitsWritten h.bytesWritten,
    count "Host Read Commands:" h.hostReadCommands,
    count "Host Write Commands:" h.hostWriteCommands,
    column "Controller Busy Time:" s!"{h.controllerBusyMinutes} min",
    count "Power Cycles:" h.powerCycles,
    count "Power On Hours:" h.powerOnHours,
    count "Unsafe Shutdowns:" h.unsafeShutdowns,
    "Media and Data Integrity Errors: " ++ Text.decimal h.mediaErrors,
    "Error Information Log Entries:   " ++ Text.decimal h.errorLogEntries,
    column "Warning Temperature Time:" s!"{h.warningTemperatureMinutes.toNat} min",
    column "Critical Temperature Time:" s!"{h.criticalTemperatureMinutes.toNat} min"] ++
  sensorLines 1 h.sensors

def text (h : Health) : String := Text.ofLines h.lines

end DriveHealth.Nvme.Health
