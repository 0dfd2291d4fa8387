import DriveHealth.Error

/-!
What ends a command early, and how it is told: what was being done, and below it the error with
the causes behind it, numbered if there are several.
-/
namespace DriveHealth

/-- The message, and those of the causes behind it. -/
def TransportError.messages : TransportError → List String
  | .system cause => [TransportError.message (.system cause), cause.message]
  | e => [e.message]

/-- The message, and those of the causes behind it. A failed write names its cause only in its
own message. -/
def Error.messages : Error → List String
  | .fileOpen path cause => [Error.message (.fileOpen path cause), cause.message]
  | .transport cause => Error.message (.transport cause) :: cause.messages
  | e => [e.message]

namespace CommandLine

inductive Failure where
  | plain (text : String)
  | during (activity : String) (cause : Error)
  deriving DecidableEq, Inhabited

namespace Failure

def headline : Failure → String
  | plain text => text
  | during activity _ => activity

def causes : Failure → List String
  | plain _ => []
  | during _ cause => cause.messages

def indent : String := "    "

/-- A text behind what leads its first line, each further line led by blanks. -/
def block (first further text : String) : String :=
  first ++ String.intercalate ("\n" ++ further) (text.splitOn "\n")

/-- The number stands in the fifth column or ends there. -/
def numbered (i : Nat) (text : String) : String :=
  block (Text.padLeft 5 (Text.decimal i) ' ' ++ ": ") "       " text

def causeLines : List String → List String
  | [] => []
  | [text] => ["", "Caused by:", block indent indent text]
  | several => ["", "Caused by:"] ++ several.zipIdx.map fun (text, i) => numbered i text

def text (f : Failure) : String := Text.ofLines (("Error: " ++ f.headline) :: causeLines f.causes)

end Failure
end CommandLine
end DriveHealth
