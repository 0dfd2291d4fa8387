import DriveHealth.Instances

/-!
Packed byte strings: the pages, registers and files that every other module reads and writes.
Reading is total, and a position past the end reads as zero, so a caller that has checked a
length once reads its fields without further proofs. Numbers are read as naturals, and written
as lists of bytes that are laid side by side.
-/
namespace DriveHealth

abbrev Bytes := ByteArray

namespace Bytes

def byteAt (b : Bytes) (i : Nat) : UInt8 := if h : i < b.size then b[i] else 0

def ofList (l : List UInt8) : Bytes := l.toByteArray

/-- The bytes from `off` on, at most `len` of them. -/
def slice (b : Bytes) (off len : Nat) : Bytes := b.extract off (off + len)

def take (b : Bytes) (len : Nat) : Bytes := b.extract 0 len

def pushMany (v : UInt8) : Nat → Bytes → Bytes
  | 0, b => b
  | n + 1, b => pushMany v n (b.push v)

def fill (n : Nat) (v : UInt8) : Bytes := pushMany v n .empty

def zeros (n : Nat) : Bytes := fill n 0

/-- Lays `field` over the bytes from `off` on; the length stays. -/
def splice (b : Bytes) (off : Nat) (field : Bytes) : Bytes :=
  (b.extract 0 off ++ field ++ b.extract (off + field.size) b.size).extract 0 b.size

def setByte (b : Bytes) (i : Nat) (v : UInt8) : Bytes := b.splice i (ofList [v])

/-- The number whose base-256 digits, lowest first, are the list. -/
def leValue : List UInt8 → Nat
  | [] => 0
  | b :: r => b.toNat + 256 * leValue r

def leNat (b : Bytes) (off : Nat) : Nat → Nat
  | 0 => 0
  | w + 1 => (b.byteAt off).toNat + 256 * leNat b (off + 1) w

def beNat (b : Bytes) (off : Nat) : Nat → Nat
  | 0 => 0
  | w + 1 => 256 * beNat b off w + (b.byteAt (off + w)).toNat

def le16 (b : Bytes) (off : Nat) : UInt16 := .ofNat (b.leNat off 2)

def le32 (b : Bytes) (off : Nat) : UInt32 := .ofNat (b.leNat off 4)

def le64 (b : Bytes) (off : Nat) : UInt64 := .ofNat (b.leNat off 8)

def be16 (b : Bytes) (off : Nat) : UInt16 := .ofNat (b.beNat off 2)

def be32 (b : Bytes) (off : Nat) : UInt32 := .ofNat (b.beNat off 4)

/-- The `w` low-order bytes of a number, lowest first. -/
def leDigits : Nat → Nat → List UInt8
  | 0, _ => []
  | w + 1, n => UInt8.ofNat n :: leDigits w (n / 256)

def beDigits (w n : Nat) : List UInt8 := (leDigits w n).reverse

def le (w n : Nat) : Bytes := ofList (leDigits w n)

def be (w n : Nat) : Bytes := ofList (beDigits w n)

def sum (b : Bytes) : UInt8 := b.data.foldl (· + ·) 0

/-- A page is sealed by a byte that brings its sum to zero. -/
def checksumOk (b : Bytes) : Bool := b.sum == 0

def isZero (b : Bytes) : Bool := b.data.all (· == 0)

/-- For a power of two `align`, the smallest multiple of it that is not below `n`; in general the
bits of `align - 1` are cleared in the sum. -/
def roundUp (n align : Nat) : Nat :=
  let m := align - 1
  (n + m) - ((n + m) &&& m)

@[simp] theorem byteAt_of_lt {b : Bytes} {i : Nat} (h : i < b.size) : b.byteAt i = b[i] := by
  simp [byteAt, h]

theorem byteAt_of_le {b : Bytes} {i : Nat} (h : b.size ≤ i) : b.byteAt i = 0 := by
  simp [byteAt, Nat.not_lt.2 h]

theorem leNat_lt (b : Bytes) (off w : Nat) : b.leNat off w < 256 ^ w := by
  induction w generalizing off with
  | zero => simp [leNat]
  | succ w ih =>
    have h := ih (off + 1)
    have hb := (b.byteAt off).toNat_lt
    simp only [leNat, Nat.pow_succ]
    omega

theorem beNat_lt (b : Bytes) (off w : Nat) : b.beNat off w < 256 ^ w := by
  induction w with
  | zero => simp [beNat]
  | succ w ih =>
    have hb := (b.byteAt (off + w)).toNat_lt
    simp only [beNat, Nat.pow_succ]
    omega

theorem leValue_lt (l : List UInt8) : leValue l < 256 ^ l.length := by
  induction l with
  | nil => simp [leValue]
  | cons b r ih =>
    have hb := b.toNat_lt
    simp only [leValue, List.length_cons, Nat.pow_succ]
    omega

@[simp] theorem length_leDigits (w n : Nat) : (leDigits w n).length = w := by
  induction w generalizing n with
  | zero => rfl
  | succ w ih => simp [leDigits, ih]

@[simp] theorem size_ofList (l : List UInt8) : (ofList l).size = l.length := by
  simp [ofList]

@[simp] theorem size_pushMany (v : UInt8) (n : Nat) (b : Bytes) :
    (pushMany v n b).size = b.size + n := by
  induction n generalizing b with
  | zero => rfl
  | succ n ih => simp [pushMany, ih, ByteArray.size_push]; omega

@[simp] theorem size_fill (n : Nat) (v : UInt8) : (fill n v).size = n := by
  simp [fill]

@[simp] theorem size_zeros (n : Nat) : (zeros n).size = n := by
  simp [zeros]

end Bytes
end DriveHealth
