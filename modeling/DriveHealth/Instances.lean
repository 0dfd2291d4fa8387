/-!
The powers and the equality of byte strings that every program here computes with. A larger
library imported beside this one brings instances of its own for them; those declared here are
found before them, so that a definition means the same wherever it is compiled.
-/
namespace DriveHealth

-- A priority above `high`, the one that the default instance for powers of a monoid has.
@[default_instance 20000]
instance (priority := 20000) powNat : Pow Nat Nat := @instPowNat Nat instNatPowNat

instance (priority := 20000) decidableEqByteArray : DecidableEq ByteArray :=
  ByteArray.instDecidableEq

end DriveHealth
