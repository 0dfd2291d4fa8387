import DriveHealth.Capture.Device
import DriveHealth.Files.Call
import DriveHealth.Json.Reader

/-!
Opening a capture: a directory with the manifest and the files that it names. The pages are read
in the order of their names, and the first file that cannot be read ends the opening.
-/
namespace DriveHealth.Capture

open Files

def manifestName : String := "device.json"

def malformed (path : String) : Error := .parse (path ++ ": not a capture manifest")

def readManifest (directory : String) : Access (Except Error Manifest) :=
  let path := join directory manifestName
  (Access.readText path).bind fun r =>
    match r with
    | .error e => .done (.error (.fileOpen path e))
    | .ok text =>
      match (Json.Reader.ofString? text).bind Manifest.ofJson? with
      | some m => .done (.ok m)
      | none => .done (.error (malformed path))

def readPages (directory : String) :
    List (String × String) → Access (Except Error (List (Key × Bytes)))
  | [] => .done (.ok [])
  | (name, file) :: rest =>
    let path := join directory file
    (Access.read path).bind fun r =>
      match r with
      | .error e => .done (.error (.fileOpen path e))
      | .ok data =>
        (readPages directory rest).bind fun r =>
          .done (r.map fun pages => (.ofText name, data) :: pages)

def openDirectory (directory : String) : Access (Except Error Device) :=
  (readManifest directory).bind fun r =>
    match r with
    | .error e => .done (.error e)
    | .ok manifest =>
      (readPages directory manifest.pages).bind fun r =>
        .done (r.map fun pages => { manifest := manifest, pages := pages })

end DriveHealth.Capture
