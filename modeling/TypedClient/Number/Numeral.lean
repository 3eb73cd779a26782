import TypedClient.Number.Binary64
import TypedClient.Text.Digits

namespace TypedClient.Numeral

inductive IntegerFault
  | malformed
  | tooLong (digits : Nat)
  deriving DecidableEq

def digitIn? (base : Nat) (c : Char) : Option Nat :=
  let value :=
    match Text.digitValue? c with
    | some d => some d
    | none =>
      if 'a' ≤ c ∧ c ≤ 'z' then some (c.toNat - 'a'.toNat + 10)
      else if 'A' ≤ c ∧ c ≤ 'Z' then some (c.toNat - 'A'.toNat + 10)
      else none
  value.filter (· < base)

def baseMark : Nat → Option Char
  | 2 => some 'b'
  | 8 => some 'o'
  | 16 => some 'x'
  | _ => none

def unmarked (base : Nat) (cs : List Char) : List Char :=
  match cs with
  | '0' :: mark :: rest => if baseMark base = some mark.toLower then rest else cs
  | _ => cs

def natural (base : Nat) (cs : List Char) : Except IntegerFault Nat :=
  match (unmarked base cs).mapM (digitIn? base) with
  | some (d :: ds) =>
    if base = 10 ∧ Text.maxDigits < ds.length + 1 then .error (.tooLong (ds.length + 1))
    else .ok (Text.ofDigits base (d :: ds))
  | _ => .error .malformed

def integer (base : Nat) (cs : List Char) : Except IntegerFault Int :=
  match Text.trimNumber cs with
  | '-' :: rest => (natural base rest).map fun n => -(n : Int)
  | '+' :: rest => (natural base rest).map Int.ofNat
  | cs => (natural base cs).map Int.ofNat

def isDigit (c : Char) : Bool := '0' ≤ c && c ≤ '9'

def readDigits (cs : List Char) : Nat :=
  Text.ofDigits 10 (cs.map fun c => c.toNat - '0'.toNat)

def unsigned : List Char → List Char
  | '-' :: rest => rest
  | '+' :: rest => rest
  | cs => cs

def exponent? : List Char → Option Int
  | [] => some 0
  | e :: cs =>
    let digits := unsigned cs
    if (e == 'e' || e == 'E') && !digits.isEmpty && digits.all isDigit then
      let n : Int := readDigits digits
      some (if cs.head? = some '-' then -n else n)
    else none

def positional? (cs : List Char) : Option Binary64 := do
  let whole := cs.takeWhile isDigit
  let (places, rest) :=
    match cs.dropWhile isDigit with
    | '.' :: rest => (rest.takeWhile isDigit, rest.dropWhile isDigit)
    | rest => ([], rest)
  guard !(whole ++ places).isEmpty
  let exponent ← exponent? rest
  some (.ofDecimal (readDigits (whole ++ places)) (exponent - places.length))

def magnitude? (cs : List Char) : Option Binary64 :=
  let word := String.ofList (cs.map Char.toLower)
  if word = "inf" ∨ word = "infinity" then some .infinity
  else if word = "nan" then some .nan
  else positional? cs

def signed? : List Char → Option Binary64
  | '-' :: rest => (magnitude? rest).map Binary64.negate
  | '+' :: rest => magnitude? rest
  | cs => magnitude? cs

def decimal? (cs : List Char) : Option Binary64 := signed? (Text.trimNumber cs)

def hasDoubleGap : List Char → Bool
  | '_' :: '_' :: _ => true
  | _ :: rest => hasDoubleGap rest
  | [] => false

def withoutGaps? (cs : List Char) : Option (List Char) :=
  if cs.head? = some '_' ∨ cs.getLast? = some '_' ∨ hasDoubleGap cs then none
  else some (cs.filter (· ≠ '_'))

def looseDecimal? (cs : List Char) : Option Binary64 :=
  match decimal? cs with
  | some x => some x
  | none => if cs.contains '_' then withoutGaps? cs >>= signed? else none

def afterZeros (last : Char) : List Char → Option (List Char)
  | [] => some [last]
  | c :: rest =>
    if c = '0' ∨ c = '_' then afterZeros c rest
    else if isDigit c then some (c :: rest)
    else if c = '.' then some (last :: c :: rest)
    else none

def withoutZeros? : List Char → Option (List Char)
  | '0' :: rest => afterZeros '0' rest
  | c :: rest => if isDigit c ∨ c = '-' then some (c :: rest) else none
  | [] => none

def withoutPlaces (cs : List Char) : List Char :=
  match cs.dropWhile (· ≠ '.') with
  | '.' :: place :: places =>
    if (place :: places).all (· == '0') then cs.takeWhile (· ≠ '.') else cs
  | _ => cs

def plainNatural? : List Char → Option Nat
  | ['0'] => some 0
  | [] => none
  | c :: rest =>
    if c ≠ '0' ∧ (c :: rest).all isDigit ∧ rest.length < Text.maxDigits then
      some (readDigits (c :: rest))
    else none

def dropPlus : List Char → List Char
  | '+' :: rest => rest
  | cs => cs

def looseCount? (cs : List Char) : Option Nat := do
  let cs ← withoutZeros? (dropPlus (Text.trimNumber cs))
  let cs := withoutPlaces cs
  match (withoutGaps? cs).getD cs with
  | ['-', '0'] => some 0
  | cs => plainNatural? cs

end TypedClient.Numeral
