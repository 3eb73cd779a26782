namespace TypedClient

structure Binary64 where
  bits : UInt64
  deriving DecidableEq, Inhabited

namespace Binary64

def ofFloat (x : Float) : Binary64 := ⟨x.toBits⟩

def toFloat (x : Binary64) : Float := Float.ofBits x.bits

def negate (x : Binary64) : Binary64 := ⟨x.bits ^^^ 0x8000000000000000⟩

def infinity : Binary64 := ⟨0x7ff0000000000000⟩

def nan : Binary64 := ⟨0x7ff8000000000000⟩

/-- The number nearest to `digits * 10 ^ exponent`. From `10 ^ 310` on it is infinite, and below
`10 ^ -330` it is zero. -/
def ofDecimal (digits : Nat) (exponent : Int) : Binary64 :=
  let places := exponent + (Nat.toDigits 10 digits).length
  if digits = 0 ∨ places < -330 then ⟨0⟩
  else if 311 < places then infinity
  else ofFloat (Float.ofScientific digits (exponent < 0) exponent.natAbs)

def overflows (size : Nat) : Bool := Nat.pow 2 1024 - Nat.pow 2 970 ≤ size

def isNegative (x : Binary64) : Bool := x.bits >>> 63 == 1

def exponentField (x : Binary64) : Nat := ((x.bits >>> 52) &&& 0x7ff).toNat

def fractionField (x : Binary64) : Nat := (x.bits &&& 0xfffffffffffff).toNat

def isNaN (x : Binary64) : Bool := x.exponentField == 0x7ff && x.fractionField != 0

def isInfinite (x : Binary64) : Bool := x.exponentField == 0x7ff && x.fractionField == 0

def significand (x : Binary64) : Nat :=
  if x.exponentField = 0 then x.fractionField else Nat.pow 2 52 + x.fractionField

def scale (x : Binary64) : Int := (max x.exponentField 1 : Nat) - 1075

def hasNarrowGapBelow (x : Binary64) : Bool := x.fractionField == 0 && x.exponentField > 1

def isZero (x : Binary64) : Bool := x.significand == 0 && x.exponentField != 0x7ff

def equalsInt (x : Binary64) (n : Int) : Bool :=
  x.exponentField != 0x7ff
    && x.significand * Nat.pow 2 x.scale.toNat == n.natAbs * Nat.pow 2 (-x.scale).toNat
    && (n == 0 || x.isNegative == decide (n < 0))

end Binary64

end TypedClient
