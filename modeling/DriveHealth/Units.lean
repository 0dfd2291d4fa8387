import DriveHealth.Number.Fixed

/-!
Quantities as people read them: byte counts in binary units, durations, times since power-on and
temperatures in both scales. Byte counts and temperatures are computed in binary64.
-/
namespace DriveHealth.Units

/-- The units of a byte count, largest first. -/
def byteUnits : List (Nat × String) :=
  [(2 ^ 50, "PB"), (2 ^ 40, "TB"), (2 ^ 30, "GB"), (2 ^ 20, "MB"), (2 ^ 10, "KB")]

def bytes (n : Nat) : String :=
  let q := Number.Binary64.ofNat n
  match byteUnits.find? fun u => (u.1 : Rat) ≤ q with
  | some (size, name) => Number.Fixed.render 2 (Number.Binary64.div q size) ++ " " ++ name
  | none => Number.Fixed.render 0 q ++ " B"

def duration (hours milliseconds : Nat) : String :=
  let minutes := milliseconds / 60000
  let seconds := milliseconds % 60000 / 1000
  s!"{hours} hours, {minutes} minutes, {seconds} seconds"

/-- Days only when there are any, then hours, minutes, seconds and milliseconds. -/
def sincePowerOn (milliseconds : Nat) : String :=
  let days := milliseconds / 86400000
  let clock :=
    Text.zeroPadded 2 (milliseconds / 3600000 % 24) ++ ":" ++
    Text.zeroPadded 2 (milliseconds / 60000 % 60) ++ ":" ++
    Text.zeroPadded 2 (milliseconds / 1000 % 60) ++ "." ++
    Text.zeroPadded 3 (milliseconds % 1000)
  if 0 < days then s!"{days}d " ++ clock else clock

def fahrenheit (celsius : Int) : Rat :=
  Number.Binary64.add
    (Number.Binary64.div (Number.Binary64.mul (Number.Binary64.ofInt celsius) 9) 5) 32

def temperature (celsius : Int) : String :=
  Text.integer celsius ++ " C (" ++ Number.Fixed.render 1 (fahrenheit celsius) ++ " F)"

end DriveHealth.Units
