/-!
# Binary floating point numbers

Numbers are kept as their interchange words. Nothing is computed with them: they are carried,
compared, and widened from the single format.
-/

namespace BoundSql

structure Binary64 where
  bits : UInt64

namespace Binary64

/-- The word without its sign. -/
def magnitude (x : Binary64) : Nat :=
  x.bits.toNat % 0x8000000000000000

/-- Whether the magnitude is above that of infinity. -/
def isNaN (x : Binary64) : Bool :=
  0x7FF0000000000000 < x.magnitude

def isFinite (x : Binary64) : Bool :=
  x.magnitude < 0x7FF0000000000000

def isZero (x : Binary64) : Bool :=
  x.magnitude == 0

/-- Equality of numbers: a NaN differs from itself, and the two zeros are equal. -/
instance : BEq Binary64 where
  beq x y := !x.isNaN && !y.isNaN && (x.bits == y.bits || (x.isZero && y.isZero))

/-- The word of a sign, an exponent field and a fraction of 52 bits. A longer fraction carries into
the exponent. -/
def ofFields (sign exponent fraction : Nat) : Binary64 :=
  ⟨.ofNat (sign * 0x8000000000000000 + exponent * 0x10000000000000 + fraction)⟩

end Binary64

structure Binary32 where
  bits : UInt32

namespace Binary32

/-- The double of the same value. A subnormal single is a normal double: its fraction is moved up
until its leading bit carries into the exponent. -/
def widen (x : Binary32) : Binary64 :=
  let word := x.bits.toNat
  let sign := word / 0x80000000
  let exponent := word / 0x800000 % 0x100
  let fraction := word % 0x800000
  if exponent = 0 then
    if fraction = 0 then .ofFields sign 0 0
    else .ofFields sign (fraction.log2 + 873) (fraction <<< (52 - fraction.log2))
  else if exponent = 0xFF then .ofFields sign 0x7FF (fraction <<< 29)
  else .ofFields sign (exponent + 896) (fraction <<< 29)

end Binary32

end BoundSql
