import DriveHealth.CommandLine.Action
import DriveHealth.Config

/-!
The configuration of the machine. A configuration that is missing or cannot be read counts as the
default one; if there is no file yet, one with the defaults is written, and it does not matter
whether that succeeds.
-/
namespace DriveHealth.CommandLine.Settings

open Files

def directory (configurations : String) : String := join configurations "drivetel"

def file (configurations : String) : String := join (directory configurations) "drivetel.toml"

def heading : String :=
  "# drivetel configuration\n# Generated on first run, edit freely\n\n"

def writeDefaults (configurations : String) : Access Unit :=
  (Access.present (file configurations)).bind fun present =>
    if present then .done ()
    else
      (Access.createDirectories (directory configurations)).bind fun r =>
        match r with
        | .error _ => .done ()
        | .ok () =>
          (Access.write (file configurations) (heading ++ Config.text {}).toUTF8).bind fun _ =>
            .done ()

def readFrom (configurations : String) : Access Config :=
  (Access.readText (file configurations)).bind fun r =>
    match r.toOption.bind Config.ofString? with
    | some c => .done c
    | none => (writeDefaults configurations).bind fun _ => .done {}

def load : Action Config :=
  Action.configDirectory.bind fun d =>
    match d with
    | some configurations => Action.ofAccess (readFrom configurations)
    | none => .done {}

end DriveHealth.CommandLine.Settings
