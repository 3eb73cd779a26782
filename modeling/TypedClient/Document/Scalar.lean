import TypedClient.Document.Tag
import TypedClient.Document.Token
import TypedClient.Text.Base64
import TypedClient.Text.Case

namespace TypedClient.Scalar

open Numeral (unsigned)

abbrev Read := Except DocumentError Scalar

def withoutGaps (s : String) : List Char := s.toList.filter (· != '_')

def integerError (base : Nat) (cs : List Char) : Numeral.IntegerFault → DocumentError
  | .malformed => .integer base (String.ofList cs)
  | .tooLong digits => .longInteger digits

def readTo (base : Nat) (cs : List Char) : Except DocumentError Int :=
  (Numeral.integer base cs).mapError (integerError base cs)

def parts (cs : List Char) : List (List Char) := Text.splitChars ':' cs

def magnitude (cs : List Char) : Except DocumentError Int :=
  match cs with
  | [] => .error .emptyNumber
  | ['0'] => .ok 0
  | '0' :: 'b' :: rest => readTo 2 rest
  | '0' :: 'x' :: rest => readTo 16 rest
  | '0' :: _ => readTo 8 cs
  | _ => do
    let parts ← (parts cs).mapM (readTo 10)
    return parts.foldl (fun total part => total * 60 + part) 0

def readInteger (s : String) : Read :=
  match withoutGaps s with
  | [] => .error .emptyNumber
  | '-' :: rest => (magnitude rest).map fun n => .int (-n)
  | cs => (magnitude (unsigned cs)).map .int

def readDecimal (cs : List Char) : Except DocumentError Binary64 :=
  match Numeral.decimal? (cs.map Text.basicDigit) with
  | some x => .ok x
  | none => .error (.float (String.ofList cs))

def addParts (total : Float) (weight : Nat) : List Binary64 → Except DocumentError Binary64
  | [] => .ok (.ofFloat total)
  | part :: rest =>
    if Binary64.overflows weight then .error .overflow
    else
      addParts (total + part.toFloat * (Binary64.ofDecimal weight 0).toFloat) (weight * 60) rest

def floatMagnitude (cs : List Char) : Except DocumentError Binary64 :=
  if cs = ".inf".toList then .ok .infinity
  else if cs = ".nan".toList then .ok .nan
  else if cs.contains ':' then do
    addParts 0.0 1 (← (parts cs).mapM readDecimal).reverse
  else readDecimal cs

def readFloat (s : String) : Read :=
  match (Text.lower (String.ofList (withoutGaps s))).toList with
  | [] => .error .emptyNumber
  | '-' :: rest => (floatMagnitude rest).map fun x => .float (if x.isNaN then x else x.negate)
  | cs => (floatMagnitude (unsigned cs)).map .float

def readTimestamp (s : String) : Read :=
  match ScalarTag.dateOrTime (ScalarTag.withoutLineEnd s.toList) with
  | some (.ok scalar) => .ok scalar
  | some (.error e) => .error (.calendar e)
  | none => .error .notATimestamp

def readTruth (s : String) : Read :=
  match ScalarTag.truthWords.lookup (Text.lower s) with
  | some b => .ok (.bool b)
  | none => .error (.truth (Text.lower s))

def readBytes (s : String) : Read :=
  if s.toList.all fun c => c.toNat < 0x80 then
    match Text.base64? s.toList with
    | some bs => .ok (.bytes bs)
    | none => .error .malformed
  else .error .malformed

def ofTag (tag : ScalarTag) (s : String) : Read :=
  match tag with
  | .null => .ok .null
  | .bool => readTruth s
  | .int => readInteger s
  | .float => readFloat s
  | .binary => readBytes s
  | .timestamp => readTimestamp s
  | .text => .ok (.text s)
  | .merge => .error .malformed
  | .value => .error .malformed

end TypedClient.Scalar
