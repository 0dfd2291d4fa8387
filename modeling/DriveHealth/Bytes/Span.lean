import DriveHealth.Bytes

/-!
Counters that occupy a span of bytes. The span is named by its most and its least significant
byte, in either order, so one rule reads both byte orders. Indices past the end fall on the last
byte, and a span wider than eight bytes keeps the eight nearest its least significant one.
-/
namespace DriveHealth.Bytes.Span

/-- The answer for a span that lies past the end altogether. -/
def outside : Nat := 2 ^ 64 - 1

def read (bytes : List UInt8) (msb lsb : Nat) : Nat :=
  let last := bytes.length - 1
  if bytes.isEmpty then 0
  else if last < msb && last < lsb then outside
  else
    let hi := min msb last
    let lo := min lsb last
    if lo ≤ hi then leValue ((bytes.drop lo).take (min 8 (hi - lo + 1)))
    else leValue ((bytes.take (lo + 1)).reverse.take (min 8 (lo - hi + 1)))

end DriveHealth.Bytes.Span
