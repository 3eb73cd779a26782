import TypedClient.Number.Binary64

namespace TypedClient

structure Decimal where
  digits : Nat
  exponent : Int
  deriving DecidableEq

namespace Decimal

def compareScaled (a : Nat) (i : Int) (b : Nat) (j : Int) : Ordering :=
  compare (a * Nat.pow 10 i.toNat * Nat.pow 2 (-j).toNat)
    (b * Nat.pow 2 j.toNat * Nat.pow 10 (-i).toNat)

/-- Whether the decimal lies among the reals that round to the magnitude of `x`, where halfway
points belong to the even neighbour. -/
def readsBack (d : Decimal) (x : Binary64) : Bool :=
  let m := x.significand
  let low := if x.hasNarrowGapBelow then 4 * m - 1 else 4 * m - 2
  let atLow := compareScaled d.digits d.exponent low (x.scale - 2)
  let atHigh := compareScaled d.digits d.exponent (4 * m + 2) (x.scale - 2)
  let even := m % 2 == 0
  (atLow == .gt || (even && atLow == .eq)) && (atHigh == .lt || (even && atHigh == .eq))

def magnitude (x : Binary64) : Int :=
  let above := x.significand * Nat.pow 2 x.scale.toNat
  let below := Nat.pow 2 (-x.scale).toNat
  let estimate : Int := ((Nat.toDigits 10 above).length : Int) - (Nat.toDigits 10 below).length
  if compareScaled 1 estimate x.significand x.scale == .gt then estimate else estimate + 1

def floorAt (x : Binary64) (exponent : Int) : Nat :=
  (x.significand * Nat.pow 2 x.scale.toNat * Nat.pow 10 (-exponent).toNat)
    / (Nat.pow 2 (-x.scale).toNat * Nat.pow 10 exponent.toNat)

def onGrid? (x : Binary64) (exponent : Int) : Option Decimal :=
  let low := floorAt x exponent
  let below : Decimal := ⟨low, exponent⟩
  let above : Decimal := ⟨low + 1, exponent⟩
  match below.readsBack x, above.readsBack x with
  | true, false => some below
  | false, true => some above
  | false, false => none
  | true, true =>
    match compareScaled (2 * low + 1) exponent (2 * x.significand) x.scale with
    | .gt => some below
    | .lt => some above
    | .eq => some (if low % 2 == 0 then below else above)

/-- The fewest digits that read back, the nearest of those; seventeen always suffice. -/
def shortest (x : Binary64) : Decimal :=
  let top := magnitude x
  let grids := (List.range 17).map fun n => top - (n + 1 : Nat)
  (grids.findSome? (onGrid? x)).getD ⟨floorAt x (top - 17), top - 17⟩

end Decimal

/-- How a number's digits are laid out: positionally when the point is not further left than
`leftmost` and not further right than `rightmost` places, else with a signed exponent. -/
structure NumberLayout where
  leftmost : Int
  rightmost : Int
  exponentDigits : Nat
  infinity : String
  nan : String

namespace NumberLayout

def padLeft (width : Nat) (digits : List Char) : List Char :=
  List.replicate (width - digits.length) '0' ++ digits

def magnitudeText (layout : NumberLayout) (d : Decimal) : List Char :=
  let all := Nat.toDigits 10 d.digits
  let digits := (all.reverse.dropWhile (· == '0')).reverse
  let point : Int := all.length + d.exponent
  if layout.leftmost < point ∧ point ≤ layout.rightmost then
    if point ≤ 0 then '0' :: '.' :: (List.replicate (-point).toNat '0' ++ digits)
    else
      let places := point.toNat
      let whole := digits.take places ++ List.replicate (places - digits.length) '0'
      let fraction := digits.drop places
      whole ++ '.' :: (if fraction.isEmpty then ['0'] else fraction)
  else
    let exponent := point - 1
    let mantissa :=
      match digits with
      | [] => ['0']
      | [c] => [c]
      | c :: rest => c :: '.' :: rest
    mantissa ++ 'e' :: (if exponent < 0 then '-' else '+')
      :: padLeft layout.exponentDigits (Nat.toDigits 10 exponent.natAbs)

def render (layout : NumberLayout) (x : Binary64) : String :=
  if x.isNaN then layout.nan
  else
    let sign := if x.isNegative then "-" else ""
    if x.isInfinite then sign ++ layout.infinity
    else if x.isZero then sign ++ "0.0"
    else sign ++ String.ofList (layout.magnitudeText (Decimal.shortest x))

end NumberLayout

end TypedClient
