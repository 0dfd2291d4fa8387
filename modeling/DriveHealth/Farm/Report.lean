import DriveHealth.Farm.Summary
import DriveHealth.Text.Blank
import DriveHealth.Units

/-!
The summary of a combined file as text.
-/
namespace DriveHealth.Farm

def Descriptor.line (d : Descriptor) : String :=
  "    " ++ Text.padRight 15 d.kind.label ++ " offset " ++
    Text.padLeft 9 (Text.decimal d.offset.toNat) ' ' ++ "  " ++
    Text.padLeft 10 (Units.bytes d.length.toNat) ' ' ++
    s!"  {d.startTime.toNat} .. {d.endTime.toNat} ms"

namespace Summary

def version (s : Summary) : String := s!"{s.major.toNat}.{s.minor.toNat}.{s.patch.toNat}"

def lines (s : Summary) : List String :=
  ["Combined FARM v" ++ s.version ++ "  interface " ++ Text.trim s.interfaceTag ++
      s!"  {s.fileSize} bytes",
    "  Model:    " ++ s.identity.model,
    "  Serial:   " ++ s.identity.serial,
    "  Firmware: " ++ s.identity.firmware,
    "  Datasets: bitmap 0x" ++ Text.hex 2 s.bitmap.toNat] ++
  s.descriptors.map Descriptor.line

def text (s : Summary) : String := Text.ofLines s.lines

end Summary
end DriveHealth.Farm
