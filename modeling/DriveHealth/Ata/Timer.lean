/-!
The period that a standby timer value stands for: units of five seconds up to F0h, then units of
half an hour, and a few values of their own.
-/
namespace DriveHealth.Ata.Timer

def seconds (s : Nat) : String :=
  if s < 60 then s!"{s} seconds"
  else if s % 60 = 0 then s!"{s / 60} minutes"
  else s!"{s / 60} minutes {s % 60} seconds"

def period (value : Nat) : String :=
  if value = 0 then "Disabled"
  else if value ≤ 0xF0 then seconds (5 * value)
  else if value ≤ 0xFB then s!"{(value - 240) * 30} minutes"
  else if value = 0xFC then "21 minutes"
  else if value = 0xFD then "8 to 12 hours"
  else if value = 0xFE then "Reserved"
  else "21 minutes 15 seconds"

end DriveHealth.Ata.Timer
