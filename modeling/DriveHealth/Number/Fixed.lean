import DriveHealth.Number.Binary64
import DriveHealth.Text.Layout

/-!
Fixed places: a rational number with a given count of digits after the point. The exact value is
rounded, and a half goes to the even neighbour.
-/
namespace DriveHealth.Number.Fixed

def render (places : Nat) (q : Rat) : String :=
  let units := Binary64.divNearestEven (q.num.natAbs * 10 ^ places) q.den
  let sign := if q.num < 0 then "-" else ""
  let lead := Text.decimal (units / 10 ^ places)
  if places = 0 then sign ++ lead
  else sign ++ lead ++ "." ++ Text.zeroPadded places (units % 10 ^ places)

end DriveHealth.Number.Fixed
