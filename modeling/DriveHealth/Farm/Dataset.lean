import DriveHealth.Bytes
import DriveHealth.Text.Blank

/-!
The datasets of field accessible reliability metrics: their kinds, the order in which a combined
file holds them, and where a drive keeps its copies.
-/
namespace DriveHealth.Farm

inductive Kind where
  | current
  | factory
  | timeSeries
  | sticky
  | workloadTrace
  | save
  | longSave
  deriving DecidableEq, Inhabited

namespace Kind

/-- The order of the datasets in a combined file. -/
def emissionOrder : List Kind :=
  [current, factory, save, timeSeries, longSave, sticky, workloadTrace]

/-- Eight characters that open the descriptor of a dataset. -/
def signature : Kind → String
  | current => "FARM    "
  | factory => "FACTORY "
  | timeSeries => "FARMTIME"
  | sticky => "FARMSTCK"
  | workloadTrace => "WORKLDTC"
  | save => "FARMSAVE"
  | longSave => "FARMLONG"

def signatureBytes (k : Kind) : Bytes := k.signature.toUTF8

def bit : Kind → Nat
  | current => 0
  | factory => 1
  | timeSeries => 2
  | sticky => 3
  | workloadTrace => 4
  | save => 5
  | longSave => 6

def ofSignature? (b : Bytes) : Option Kind := emissionOrder.find? fun k => k.signatureBytes == b

def label : Kind → String
  | current => "Current"
  | factory => "Factory"
  | timeSeries => "Time Series"
  | sticky => "Sticky"
  | workloadTrace => "Workload Trace"
  | save => "Saved"
  | longSave => "Long Saved"

def name : Kind → String
  | current => "current"
  | factory => "factory"
  | timeSeries => "time-series"
  | sticky => "sticky"
  | workloadTrace => "workload-trace"
  | save => "save"
  | longSave => "long-save"

def ofName? (s : String) : Option Kind := emissionOrder.find? fun k => k.name == s

/-- The bits of a list of kinds in one word. -/
def bitmap (kinds : List Kind) : UInt32 :=
  kinds.foldl (fun m k => m ||| UInt32.ofNat (2 ^ k.bit)) 0

end Kind

structure Dataset where
  kind : Kind
  payload : Bytes
  /-- Milliseconds since the epoch. -/
  startTime : UInt64
  endTime : UInt64
  deriving DecidableEq, Inhabited

/-- One dataset of each kind, the first one, in the order of a combined file. -/
def inEmissionOrder (l : List Dataset) : List Dataset :=
  Kind.emissionOrder.filterMap fun k => l.find? fun d => d.kind == k

inductive Copy where
  | disc
  | flash
  deriving DecidableEq, Inhabited

namespace Copy

def name : Copy → String
  | disc => "disc"
  | flash => "flash"

def parse (s : String) : Except String Copy :=
  let wanted := (Text.trim s).map Char.toLower
  if wanted = "disc" ∨ wanted = "disk" then .ok disc
  else if wanted = "flash" then .ok flash
  else .error ("unknown copy source '" ++ wanted ++ "' (disc or flash)")

def ofName? (s : String) : Option Copy := [disc, flash].find? fun c => c.name == s

end Copy
end DriveHealth.Farm
