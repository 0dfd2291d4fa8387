import DriveHealth.Check
import DriveHealth.ErrorLog.Read
import DriveHealth.Farm.Summary
import DriveHealth.Json

/-!
What the commands print when JSON is asked for. Every result is an object with its fields in a
fixed order; a choice is its name, or for one that carries values an object with a single field.
-/
namespace DriveHealth

def Attribute.toJson (a : Attribute) : Json :=
  .object
    [("id", .ofByte a.id), ("flags", .ofNat a.flags.toNat), ("nominal", .ofByte a.nominal),
     ("worst", .ofByte a.worst), ("raw", .ofList .ofByte a.raw.toList),
     ("threshold", Json.ofOption .ofByte a.threshold)]

def Attribute.Table.jsonFields (t : Attribute.Table) : List (String × Json) :=
  [("version", .ofNat t.version.toNat), ("attributes", .ofList Attribute.toJson t.attributes),
    ("thresholds_loaded", .bool t.thresholdsLoaded), ("checksum_valid", .bool t.checksumValid)]

def Nvme.Health.jsonFields (h : Nvme.Health) : List (String × Json) :=
  [("critical_warning", .ofByte h.criticalWarning), ("temperature_kelvin", .ofNat h.kelvin.toNat),
    ("available_spare_pct", .ofByte h.availableSpare),
    ("available_spare_threshold", .ofByte h.availableSpareThreshold),
    ("percentage_used", .ofByte h.percentageUsed),
    ("data_units_read", .ofNat h.dataUnitsRead), ("data_units_written", .ofNat h.dataUnitsWritten),
    ("host_read_commands", .ofNat h.hostReadCommands),
    ("host_write_commands", .ofNat h.hostWriteCommands),
    ("controller_busy_minutes", .ofNat h.controllerBusyMinutes),
    ("power_cycles", .ofNat h.powerCycles), ("power_on_hours", .ofNat h.powerOnHours),
    ("unsafe_shutdowns", .ofNat h.unsafeShutdowns), ("media_errors", .ofNat h.mediaErrors),
    ("error_log_entries", .ofNat h.errorLogEntries),
    ("warning_temp_minutes", .ofNat h.warningTemperatureMinutes.toNat),
    ("critical_temp_minutes", .ofNat h.criticalTemperatureMinutes.toNat),
    ("temperature_sensors", .ofList (fun t => .ofNat t.toNat) h.sensors)]

/-- The command set comes first and tells which fields follow. -/
def SmartData.toJson : SmartData → Json
  | .ata table => .object (("protocol", .text "ata") :: table.jsonFields)
  | .nvme health => .object (("protocol", .text "nvme") :: health.jsonFields)

namespace ErrorLog

def Source.exportName : Source → String
  | extended => "ExtComprehensive"
  | comprehensive => "Comprehensive"
  | summary => "Summary"

def CommandRecord.jsonFields (c : CommandRecord) : List (String × Json) :=
  [("device_control", .ofByte c.deviceControl), ("features", .ofNat c.features.toNat),
    ("count", .ofNat c.count.toNat), ("lba", .ofNat c.lba), ("device", .ofByte c.device),
    ("command", .ofByte c.command), ("timestamp_ms", .ofNat c.timestamp.toNat)]

def ErrorRecord.jsonFields (e : ErrorRecord) : List (String × Json) :=
  [("transport_specific", .ofByte e.transportSpecific), ("error", .ofByte e.error),
    ("count", .ofNat e.count.toNat), ("lba", .ofNat e.lba), ("device", .ofByte e.device),
    ("status", .ofByte e.status), ("vendor_unique", .ofList .ofByte e.vendorUnique.toList),
    ("state", .ofByte e.state), ("life_hours", .ofNat e.lifeHours.toNat)]

def NumberedEntry.toJson (e : NumberedEntry) : Json :=
  .object
    [("error_number", .ofNat e.number.toNat),
     ("commands", .ofList (fun c => .object (CommandRecord.jsonFields c)) e.entry.commands),
     ("error", .object e.entry.error.jsonFields)]

def toJson (log : ErrorLog) : Json :=
  .object
    [("source", .text log.source.exportName), ("version", .ofByte log.header.version),
     ("index", .ofNat log.header.index.toNat),
     ("device_error_count", .ofNat log.header.errorCount.toNat),
     ("checksum_valid", .bool log.checksumValid), ("truncated", .bool log.truncated),
     ("entries", .ofList NumberedEntry.toJson log.entries)]

end ErrorLog

def CheckStatus.exportName : CheckStatus → String
  | pass => "Pass"
  | warning => "Warning"
  | fail => "Fail"
  | unknown => "Unknown"
  | notSupported => "NotSupported"

def StatusSource.exportName : StatusSource → String
  | returnStatus => "ReturnStatus"
  | sctStatus => "SctStatus"

def DriveKind.exportName : DriveKind → String
  | ata => "Ata"
  | scsi => "Scsi"
  | nvme => "Nvme"

def TripDetail.toJson : TripDetail → Json
  | .attribute id name nominal worst threshold prefail =>
    .object [("AtaAttribute", .object
      [("id", .ofByte id), ("name", Json.ofOption .text name), ("nominal", .ofByte nominal),
       ("worst", .ofByte worst), ("threshold", .ofByte threshold), ("prefail", .bool prefail)])]
  | .status source => .object [("AtaStatus", .object [("source", .text source.exportName)])]
  | .sense key asc ascq =>
    .object [("Scsi", .object
      [("sense_key", .ofByte key), ("asc", .ofByte asc), ("ascq", .ofByte ascq)])]
  | .criticalWarning bits => .object [("Nvme", .object [("critical_warning", .ofByte bits)])]

def Trip.toJson (t : Trip) : Json :=
  .object
    [("protocol", .text t.protocol.exportName), ("detail", t.detail.toJson),
     ("reason", .text t.reason)]

def CheckResult.toJson (r : CheckResult) : Json :=
  .object [("status", .text r.status.exportName), ("trip", Json.ofOption Trip.toJson r.trip)]

namespace Farm

def Descriptor.toJson (d : Descriptor) : Json :=
  .object
    [("kind", .text d.kind.name), ("offset", .ofNat d.offset.toNat),
     ("length", .ofNat d.length.toNat), ("start_ms", .ofNat d.startTime.toNat),
     ("end_ms", .ofNat d.endTime.toNat)]

def Summary.toJson (s : Summary) : Json :=
  .object
    [("version", .ofList (fun (n : UInt16) => .ofNat n.toNat) [s.major, s.minor, s.patch]),
     ("interface", .text s.interfaceTag), ("model", .text s.identity.model),
     ("serial", .text s.identity.serial), ("firmware", .text s.identity.firmware),
     ("header_length", .ofNat s.headerLength.toNat), ("content_bitmap", .ofNat s.bitmap.toNat),
     ("descriptors", .ofList Descriptor.toJson s.descriptors),
     ("file_size", .ofNat s.fileSize)]

end Farm
end DriveHealth
