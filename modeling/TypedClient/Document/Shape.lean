import TypedClient.Document.Reference
import TypedClient.Number.Numeral
import TypedClient.Text.Utf8

namespace TypedClient

inductive Rule (Form : Type)
  | anything
  | null
  | text
  | word (allowed : String → Bool)
  | flag
  | count
  | number
  | positive
  | literal
  | list (least : Nat) (item : Rule Form)
  | table (entry : Rule Form)
  | object (form : Form)
  /-- A map that holds a pointer stands for another value and is not looked into. -/
  | linked (rule : Rule Form)
  | either (first second : Rule Form)

structure Member (Form : Type) where
  key : String
  isRequired : Bool
  rule : Rule Form
  secondKey : Option String := none

namespace Scalar

def text? : Scalar → Option String
  | .text s => some s
  | .bytes bs => (Text.decode bs).toOption
  | _ => none

def flagWords : List String :=
  ["0", "1", "f", "t", "n", "y", "no", "yes", "off", "on", "false", "true"]

def isFlag : Scalar → Bool
  | .bool _ => true
  | .int n => n == 0 || n == 1
  | .float x => x.equalsInt 0 || x.equalsInt 1
  | s => s.text?.any fun word => flagWords.contains (word.map Char.toLower)

def decimal? : Scalar → Option Binary64
  | .bool b => some (.ofDecimal (if b then 1 else 0) 0)
  | .int n =>
    if Binary64.overflows n.natAbs then none
    else
      let size := Binary64.ofDecimal n.natAbs 0
      some (if n < 0 then size.negate else size)
  | .float x => some x
  | s => s.text? >>= fun text => Numeral.looseDecimal? text.toList

def isPositive (x : Binary64) : Bool := !x.isNaN && !x.isNegative && !x.isZero

def isWhole (x : Binary64) : Bool :=
  x.exponentField < 1086 && x.significand % Nat.pow 2 (-x.scale).toNat == 0

def isCount : Scalar → Bool
  | .bool _ => true
  | .int n => 0 ≤ n
  | .float x => isWhole x && (!x.isNegative || x.isZero)
  | s => (s.text? >>= fun text => Numeral.looseCount? text.toList).isSome

def isLiteral : Scalar → Bool
  | .date _ => false
  | .timestamp _ => false
  | .bytes bs => (Scalar.bytes bs).text?.isSome
  | _ => true

end Scalar

inductive MapRule (Form : Type)
  | anything
  | table (entry : Rule Form)
  | object (form : Form)
  | pointer

namespace Rule

variable {Form : Type}

def accepts : Rule Form → Scalar → Bool
  | anything, _ => true
  | null, s => s == .null
  | text, s => s.text?.isSome
  | word allowed, s => s.text?.any allowed
  | flag, s => s.isFlag
  | count, s => s.isCount
  | number, s => s.decimal?.isSome
  | positive, s => s.decimal?.any Scalar.isPositive
  | literal, s => s.isLiteral
  | linked rule, s => rule.accepts s
  | either first second, s => first.accepts s || second.accepts s
  | _, _ => false

def isOpen : Rule Form → Bool
  | anything => true
  | linked rule => rule.isOpen
  | either first second => first.isOpen || second.isOpen
  | _ => false

def lists : Rule Form → List (Nat × Rule Form)
  | anything => [(0, anything)]
  | list least item => [(least, item)]
  | linked rule => rule.lists
  | either first second => first.lists ++ second.lists
  | _ => []

def maps (hasPointer : Bool) : Rule Form → List (MapRule Form)
  | anything => [.anything]
  | table entry => [.table entry]
  | object form => [.object form]
  | linked rule => if hasPointer then [.pointer] else rule.maps hasPointer
  | either first second => first.maps hasPointer ++ second.maps hasPointer
  | _ => []

end Rule

namespace Member

variable {Form : Type}

def keyIn? (entries : List Entry) (member : Member Form) : Option String :=
  if (Value.lookup member.key entries).isSome then some member.key
  else member.secondKey.filter fun key => (Value.lookup key entries).isSome

end Member

structure Forms (Form : Type) where
  members : Form → List (Member Form)
  isCounted : Form → Bool

namespace Forms

variable {Form : Type}

def roomBelow (forms : Forms Form) (form : Form) (room : Nat) : Option Nat :=
  if !forms.isCounted form then some room
  else
    match room with
    | 0 => none
    | room + 1 => some room

end Forms

namespace Value

variable {Form : Type}

def isTextKey : Entry → Bool
  | (.text _, _) => true
  | _ => false

def isTableKey (entry : Entry) : Bool := entry.1.text?.isSome

def knownRules (members : List (Member Form)) (entries : List Entry) :
    List (String × Rule Form) :=
  members.filterMap fun member => (member.keyIn? entries).map (·, member.rule)

def ruleOf (known : List (String × Rule Form)) (key : Scalar) : Option (Rule Form) :=
  (known.find? fun (name, _) => key = .text name).map (·.2)

def hasRequired (members : List (Member Form)) (entries : List Entry) : Bool :=
  members.all fun member => !member.isRequired || (member.keyIn? entries).isSome

mutual

/-- Whether a value has the shape that a rule asks for, with room for so many counted objects on
the way down. -/
def fits (forms : Forms Form) (room : Nat) : Value → Rule Form → Bool
  | .scalar s, rule => rule.accepts s
  | .list items, rule =>
    rule.lists.any fun (least, item) =>
      decide (least ≤ items.length) && itemsFit forms room items item
  | .set members, rule =>
    rule.lists.any fun (least, item) =>
      decide (least ≤ members.length) && members.all item.accepts
  | .map entries, rule =>
    (rule.maps (lookup "$ref" entries).isSome).any fun
      | .anything => true
      | .table entry => entries.all isTableKey && tableFits forms room entries entry
      | .object form =>
        match forms.roomBelow form room with
        | none => false
        | some room =>
          entries.all isTextKey && hasRequired (forms.members form) entries
            && membersFit forms room entries (knownRules (forms.members form) entries)
      | .pointer => room != 0 && entries.all isTextKey && (pointerOf entries).isSome
  | .named _ v, rule => v.fits forms room rule
  | _, rule => rule.isOpen

def itemsFit (forms : Forms Form) (room : Nat) : List Value → Rule Form → Bool
  | [], _ => true
  | v :: rest, rule => v.fits forms room rule && itemsFit forms room rest rule

def tableFits (forms : Forms Form) (room : Nat) : List Entry → Rule Form → Bool
  | [], _ => true
  | (_, v) :: rest, rule => v.fits forms room rule && tableFits forms room rest rule

def membersFit (forms : Forms Form) (room : Nat) :
    List Entry → List (String × Rule Form) → Bool
  | [], _ => true
  | (k, v) :: rest, known =>
    (match ruleOf known k with
      | none => true
      | some rule => v.fits forms room rule)
      && membersFit forms room rest known

end

end Value

end TypedClient
