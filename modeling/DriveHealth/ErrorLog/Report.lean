import DriveHealth.Ata.Command
import DriveHealth.Ata.Failure
import DriveHealth.ErrorLog.Read
import DriveHealth.Units

/-!
The error log as text: a heading, warnings about what could not be read, and for each error its
state, what failed and the commands that led to it.
-/
namespace DriveHealth.ErrorLog

def CommandRecord.registers (c : CommandRecord) : Ata.Registers :=
  ⟨c.command, c.features, c.count, c.lba, c.device⟩

def CommandRecord.text (c : CommandRecord) : String :=
  match c.reset? with
  | some .hardware => "Hardware Reset"
  | some .software => "Software Reset"
  | none => Ata.Command.text c.registers

namespace Entry

/-- The command to blame: the last one that is no reset. -/
def failing? (e : Entry) : Option CommandRecord :=
  e.commands.reverse.find? fun c => c.reset?.isNone

def failure (e : Entry) : Ata.Failure :=
  { command := (e.failing?.map CommandRecord.command).getD 0
    commandDevice := (e.failing?.map CommandRecord.device).getD e.error.device
    status := e.error.status
    error := e.error.error
    count := e.error.count
    lba := e.error.lba
    device := e.error.device
    transportSpecific := e.error.transportSpecific }

def errorText (e : Entry) : String := e.failure.text

def commandRow (time text : String) : String := "    " ++ Text.padRight 18 time ++ " " ++ text

def commandLines (l : List CommandRecord) : List String :=
  if l.isEmpty then []
  else
    ["  Commands leading to the error (oldest first):", commandRow "Powered-up Time" "Command"] ++
    l.map fun c => commandRow (Units.sincePowerOn c.timestamp.toNat) c.text

def lines (number : UInt32) (e : Entry) : List String :=
  ["",
    s!"Error {number.toNat} occurred at disk power-on lifetime: {e.error.lifeHours.toNat} hours",
    "  Device state: " ++ e.error.stateLabel,
    "  Error: " ++ e.errorText] ++
  commandLines e.commands

end Entry

def entryLines (l : List NumberedEntry) : List String :=
  l.flatMap fun e => e.entry.lines e.number

def headingLines (log : ErrorLog) : List String :=
  [log.source.label ++ s!" (version {log.header.version.toNat})",
    s!"Device error count: {log.header.errorCount.toNat}"] ++
  (if log.checksumValid then [] else ["Warning: log checksum is invalid"])

def lines (log : ErrorLog) : List String :=
  headingLines log ++
  (if log.entries.isEmpty then ["No errors logged"]
    else
      (if log.truncated then ["Warning: log could only be read partially"] else []) ++
      entryLines log.entries)

def text (log : ErrorLog) : String := Text.ofLines log.lines

end DriveHealth.ErrorLog
