import DriveHealth.Text.Layout
import DriveHealth.Text.Unprintable

/-!
Text in double quotes with everything visible: quotes, backslashes and the common controls are
escaped by a letter, and other characters that do not show by their code point.
-/
namespace DriveHealth.Text.Quoted

def escape (c : Char) : String :=
  match c with
  | '\x00' => "\\0"
  | '\t' => "\\t"
  | '\r' => "\\r"
  | '\n' => "\\n"
  | '"' => "\\\""
  | '\\' => "\\\\"
  | c => if Unprintable.contains c then "\\u\x7b" ++ hexLower c.toNat ++ "\x7d" else c.toString

def encode (s : String) : String :=
  "\"" ++ s.toList.foldl (fun acc c => acc ++ escape c) "" ++ "\""

end DriveHealth.Text.Quoted
