import TypedClient.Document.Value
import TypedClient.Number.Numeral

namespace TypedClient

inductive ScalarTag
  | null
  | bool
  | int
  | float
  | binary
  | timestamp
  | text
  | merge
  | value
  deriving DecidableEq

inductive CollectionTag
  | list
  | map
  | set
  | pairs
  deriving DecidableEq

inductive Tag
  | scalar (t : ScalarTag)
  | collection (t : CollectionTag)
  | unknown
  deriving DecidableEq

namespace Tag

def core : String := "tag:yaml.org,2002:"

def known : List (String × Tag) :=
  [("null", .scalar .null), ("bool", .scalar .bool), ("int", .scalar .int),
   ("float", .scalar .float), ("binary", .scalar .binary), ("timestamp", .scalar .timestamp),
   ("str", .scalar .text), ("merge", .scalar .merge), ("value", .scalar .value),
   ("seq", .collection .list), ("map", .collection .map), ("set", .collection .set),
   ("omap", .collection .pairs), ("pairs", .collection .pairs)]

def ofName (name : String) : Tag :=
  ((known.find? fun (s, _) => name = core ++ s).map (·.2)).getD .unknown

end Tag

namespace ScalarTag

open Numeral (isDigit unsigned readDigits)

def isDigitOrGap (c : Char) : Bool := isDigit c || c == '_'

def isHexDigitOrGap (c : Char) : Bool :=
  isDigitOrGap c || ('a' ≤ c && c ≤ 'f') || ('A' ≤ c && c ≤ 'F')

def someOf (p : Char → Bool) (cs : List Char) : Bool := !cs.isEmpty && cs.all p

def sixties : List Char → Option (List Char)
  | ':' :: a :: b :: rest =>
    if '0' ≤ a ∧ a ≤ '5' ∧ isDigit b then
      match rest with
      | ':' :: _ => sixties rest
      | _ => some rest
    else if isDigit a then
      match b with
      | ':' => sixties (b :: rest)
      | _ => some (b :: rest)
    else none
  | [':', a] => if isDigit a then some [] else none
  | _ => none

def wholePart (first : Char → Bool) : List Char → Option (List Char)
  | c :: rest => if first c then some (rest.dropWhile isDigitOrGap) else none
  | [] => none

def isInteger (cs : List Char) : Bool :=
  match unsigned cs with
  | ['0'] => true
  | '0' :: 'b' :: rest => someOf (fun c => c == '0' || c == '1' || c == '_') rest
  | '0' :: 'x' :: rest => someOf isHexDigitOrGap rest
  | '0' :: rest => someOf (fun c => ('0' ≤ c && c ≤ '7') || c == '_') rest
  | cs =>
    match wholePart isDigit cs with
    | some [] => true
    | some rest => sixties rest == some []
    | none => false

def isExponent : List Char → Bool
  | [] => true
  | e :: sign :: digits =>
    (e == 'e' || e == 'E') && (sign == '+' || sign == '-') && someOf isDigit digits
  | _ => false

def isFraction (cs : List Char) : Bool := isExponent (cs.dropWhile isDigitOrGap)

def isFloat (cs : List Char) : Bool :=
  if cs ∈ [".nan".toList, ".NaN".toList, ".NAN".toList] then true
  else if unsigned cs ∈ [".inf".toList, ".Inf".toList, ".INF".toList] then true
  else
    match cs with
    | '.' :: c :: rest => isDigit c && isFraction rest
    | _ =>
      match wholePart isDigit (unsigned cs) with
      | some ('.' :: rest) => isFraction rest
      | some rest =>
        match sixties rest with
        | some ('.' :: rest) => rest.all isDigitOrGap
        | _ => false
      | none => false

def digits (least most : Nat) (cs : List Char) : Option (Nat × List Char) :=
  let found := (cs.take most).takeWhile isDigit
  if found.length < least then none
  else some (readDigits found, cs.drop found.length)

def after (c : Char) : List Char → Option (List Char)
  | [] => none
  | d :: rest => if d = c then some rest else none

def isGap (c : Char) : Bool := c == ' ' || c == '\t'

def zone (cs : List Char) : Option (Option Int) :=
  match cs, cs.dropWhile isGap with
  | [], _ => some none
  | _, ['Z'] => some (some 0)
  | _, sign :: rest => do
    guard (sign = '+' ∨ sign = '-')
    let (hours, rest) ← digits 1 2 rest
    let minutes ←
      match rest with
      | [] => some 0
      | rest => do
        let (minutes, rest) ← after ':' rest >>= digits 2 2
        guard rest.isEmpty
        some minutes
    let offset : Int := (hours * 60 + minutes : Nat)
    some (some (if sign = '-' then -offset else offset))
  | _, [] => none

def microseconds (cs : List Char) : Nat :=
  let six := cs.take 6
  readDigits (six ++ List.replicate (6 - six.length) '0')

def fraction : List Char → Nat × List Char
  | '.' :: rest => (microseconds (rest.takeWhile isDigit), rest.dropWhile isDigit)
  | cs => (0, cs)

def timeOfDay (cs : List Char) : Option (List Char) :=
  match cs with
  | 'T' :: rest => some rest
  | 't' :: rest => some rest
  | cs => if (cs.head?.map isGap).getD false then some (cs.dropWhile isGap) else none

def dateOrTime (cs : List Char) : Option (Except CalendarError Scalar) := do
  let (year, rest) ← digits 4 4 cs
  let (month, afterMonth) ← after '-' rest >>= digits 1 2
  let (day, afterDay) ← after '-' afterMonth >>= digits 1 2
  if afterDay.isEmpty then some ((Date.ofParts year month day).map .date)
  else
    let (hour, rest) ← timeOfDay afterDay >>= digits 1 2
    let (minute, rest) ← after ':' rest >>= digits 2 2
    let (second, rest) ← after ':' rest >>= digits 2 2
    let (micro, rest) := fraction rest
    let offset ← zone rest
    some ((Timestamp.ofParts year month day hour minute second micro offset).map .timestamp)

def isTimestamp (cs : List Char) : Bool :=
  (dateOrTime cs).isSome && (cs.length == 10 || cs.contains ':')

def truthWords : List (String × Bool) :=
  [("yes", true), ("no", false), ("true", true), ("false", false), ("on", true), ("off", false)]

def spellings (word : String) : List String :=
  [word, word.capitalize, word.map Char.toUpper]

def nullWords : List String := ["", "~"] ++ spellings "null"

def withoutLineEnd (cs : List Char) : List Char :=
  if cs.getLast? = some '\n' ∧ cs ≠ ['\n'] then cs.dropLast else cs

def ofForm (s : String) : ScalarTag :=
  let cs := s.toList
  if s ∈ nullWords then null
  else if truthWords.any fun (word, _) => s ∈ spellings word then bool
  else if isFloat cs then float
  else if isInteger cs then int
  else if s = "<<" then merge
  else if s = "=" then value
  else if isTimestamp cs then timestamp
  else text

end ScalarTag

def Tag.ofForm (plain : String) : Tag :=
  let s := String.ofList (ScalarTag.withoutLineEnd plain.toList)
  if s ∈ ["!", "&", "*"] then .unknown else .scalar (.ofForm s)

end TypedClient
