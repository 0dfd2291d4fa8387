import DriveHealth.CommandLine.Arguments
import DriveHealth.CommandLine.Pulling
import DriveHealth.CommandLine.Settings
import DriveHealth.ErrorLog.Report
import DriveHealth.Export
import DriveHealth.Farm.File
import DriveHealth.Farm.Report
import DriveHealth.Json.Layout
import DriveHealth.Nvme.Report

/-!
The commands. A run reads its arguments, then the configuration, and ends in an exit status and
two texts. A check tells its verdict by the exit status too; every other command ends with zero,
and a failure of any command ends with one.
-/
namespace DriveHealth.CommandLine

/-- How a run ends. -/
structure Outcome where
  status : UInt8
  output : String := ""
  errors : String := ""
  deriving DecidableEq, Inhabited

namespace Outcome

def ofFailure (f : Failure) : Outcome := ⟨1, "", f.text⟩

def ofResult : Except Failure String → Outcome
  | .ok output => ⟨0, output, ""⟩
  | .error f => ofFailure f

def misused : Outcome := ⟨2, "", "error: the arguments fit no command\n"⟩

end Outcome

/-- The result as JSON if that is asked for, and as text otherwise. -/
def shown (json : Bool) (value : Json) (text : String) : String :=
  if json then value.pretty ++ "\n" else text

/-- Opens a drive and goes on with it. -/
def withDrive (path : String) (family : Option VendorFamily)
    (next : OpenDrive → Action Outcome) : Action Outcome :=
  (OpenDrive.openAs path family).bind fun r =>
    match r with
    | .error f => .done (.ofFailure f)
    | .ok d => next d

def farm (json : Bool) (path directory : String) (options : Farm.PullOptions)
    (family : Option VendorFamily) : Action Outcome :=
  withDrive path family fun d =>
    (Pulling.pull directory d options).bind fun r =>
      .done (.ofResult (r.mapError (Failure.during ("collecting FARM from " ++ path)) |>.map
        fun (written, s) => shown json s.toJson ("Wrote " ++ written ++ "\n" ++ s.text)))

def smartText (family : VendorFamily) (view : Attribute.View) : SmartData → String
  | .ata table => table.text family view
  | .nvme health => health.text

def attributes (json : Bool) (path : String) (view : Attribute.View)
    (family : Option VendorFamily) : Action Outcome :=
  withDrive path family fun d =>
    d.readSmart.bind fun r =>
      .done (.ofResult (r.mapError (Failure.during "reading SMART data") |>.map
        fun data => shown json data.toJson (smartText d.drive.family view data)))

def noErrorLogs : Failure := .plain "SMART error logs are only kept by ATA drives"

def errors (json : Bool) (path : String) (family : Option VendorFamily) : Action Outcome :=
  withDrive path family fun d =>
    if d.drive.kind = .ata then
      (d.session (ErrorLog.read d.drive)).bind fun r =>
        .done (.ofResult (r.mapError (Failure.during "reading SMART error log") |>.map
          fun log => shown json log.toJson log.text))
    else .done (.ofFailure noErrorLogs)

def exitStatus : CheckStatus → UInt8
  | .pass => 0
  | .warning => 1
  | .fail => 2
  | .unknown | .notSupported => 3

def verdictLine (r : CheckResult) : String :=
  match r.trip with
  | some t => r.status.label ++ ": " ++ t.reason ++ "\n"
  | none => r.status.label ++ "\n"

/-- A check that the engine ends with an error decides nothing, and says so in place of a
verdict. -/
def checkOutcome (json : Bool) : Except Error CheckResult → Outcome
  | .ok r => ⟨exitStatus r.status, shown json r.toJson (verdictLine r), ""⟩
  | .error e => ⟨exitStatus .unknown, "UNKNOWN: " ++ e.message ++ "\n", ""⟩

def check (json : Bool) (path : String) (options : Check.Options)
    (family : Option VendorFamily) : Action Outcome :=
  withDrive path family fun d => (d.check options).bind fun r => .done (checkOutcome json r)

def readFarm (path : String) (r : Except SystemError Bytes) : Except Error Farm.File :=
  (r.mapError (Error.fileOpen path)).bind Farm.File.parse

def farmInfo (json : Bool) (path : String) : Action Outcome :=
  (Action.ofAccess (Files.Access.read path)).bind fun r =>
    .done (.ofResult ((readFarm path r).mapError (Failure.during ("reading " ++ path)) |>.map
      fun file => shown json file.summary.toJson file.summary.text))

/-- The line that says where the configuration is kept. -/
def configLine (configurations : Option String) : String :=
  "Config file: " ++ (configurations.map Settings.file).getD "(no config directory)" ++ "\n"

def config (c : Config) : Action Outcome :=
  Action.configDirectory.bind fun d =>
    .done (.ofResult (.ok (configLine d ++ "\n" ++ c.text)))

/-- What the command line leaves open is taken from the configuration. -/
def Command.run (c : Config) (json : Bool) : Command → Action Outcome
  | .farm path out copy hint =>
    CommandLine.farm json path (out.getD c.outputPath) ⟨copy.getD c.copy, hint.getD c.hint⟩
      c.family
  | .attributes path view family =>
    CommandLine.attributes json path (view.getD c.view) (family.or c.family)
  | .errors path => CommandLine.errors json path c.family
  | .check path family => CommandLine.check json path c.checkOptions (family.or c.family)
  | .farmInfo path => CommandLine.farmInfo json path
  | .config => CommandLine.config c

def run (arguments : List String) : Action Outcome :=
  match Invocation.ofArguments? arguments with
  | none => .done .misused
  | some i => Settings.load.bind fun c => i.command.run c i.json

end DriveHealth.CommandLine
