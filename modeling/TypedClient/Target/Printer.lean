import TypedClient.Target.Syntax
import TypedClient.Text.Quoted

namespace TypedClient.Target

/-- Up to version 3.11 of the language a name with a backslash cannot stand in a formatted text. -/
inductive PrintError
  | backslashInHole
  deriving DecidableEq

def PrintError.message : PrintError → String
  | .backslashInHole => "Unable to avoid backslash in f-string expression part"

namespace Constant

def print : Constant → String
  | none => "None"
  | true => "True"
  | ellipsis => "..."
  | text s => Text.quoted s

end Constant

namespace FormatPart

def doubleBraces (cs : List Char) : List Char :=
  cs.flatMap fun c => if c = '{' ∨ c = '}' then [c, c] else [c]

def chars : FormatPart → Bool × List Char
  | text s => (true, doubleBraces s.toList)
  | hole name =>
    (false, '{' :: (if name.toList.head? = some '{' then [' '] else []) ++ name.toList ++ ['}'])

def body (parts : List FormatPart) : List Char × List Char := Text.joinParts (parts.map chars)

def print (parts : List FormatPart) : String :=
  let (body, quote) := body parts
  "f" ++ String.ofList (quote ++ body ++ quote)

def holes : List FormatPart → List String
  | [] => []
  | .text _ :: rest => holes rest
  | .hole name :: rest => name :: holes rest

end FormatPart

namespace Expr

inductive Binding
  | test
  | disjunct
  | negation
  | comparison
  | operand
  | sum
  | term
  | awaited
  | atom
  deriving DecidableEq

def Binding.rank : Binding → Nat
  | test => 0
  | disjunct => 1
  | negation => 2
  | comparison => 3
  | operand => 4
  | sum => 5
  | term => 6
  | awaited => 7
  | atom => 8

def parenthesize (needed given : Binding) (s : String) : String :=
  if given.rank < needed.rank then "(" ++ s ++ ")" else s

mutual

def print (needed : Binding) : Expr → String
  | name id => id
  | constant value => value.print
  | attr value key => print .atom value ++ "." ++ key
  | subscript value index => print .atom value ++ "[" ++ ", ".intercalate (printAll index) ++ "]"
  | call function args keywords =>
    print .atom function ++ "("
      ++ ", ".intercalate (printAll args ++ printKeywords keywords) ++ ")"
  | await value => parenthesize needed .awaited ("await " ++ print .atom value)
  | add left right =>
    parenthesize needed .sum (print .sum left ++ " + " ++ print .term right)
  | isNone operand => parenthesize needed .comparison (print .operand operand ++ " is None")
  | isNotNone operand => parenthesize needed .comparison (print .operand operand ++ " is not None")
  | not operand => parenthesize needed .negation ("not " ++ print .negation operand)
  | conditional test body otherwise =>
    parenthesize needed .test
      (print .disjunct body ++ " if " ++ print .disjunct test ++ " else " ++ print .test otherwise)
  | list items => "[" ++ ", ".intercalate (printAll items) ++ "]"
  | formatted parts => FormatPart.print parts

def printAll : List Expr → List String
  | [] => []
  | e :: rest => print .test e :: printAll rest

def printKeywords : List (String × Expr) → List String
  | [] => []
  | (key, e) :: rest => (key ++ "=" ++ print .test e) :: printKeywords rest

end

def text (e : Expr) : String := print .test e

end Expr

def indentation (depth : Nat) : String := String.ofList (List.replicate (4 * depth) ' ')

def line (depth : Nat) (s : String) : String := indentation depth ++ s

namespace Stmt

mutual

def lines (depth : Nat) : Stmt → List String
  | expr value => [line depth value.text]
  | assign target value => [line depth (target.text ++ " = " ++ value.text)]
  | annotated target hint value =>
    [line depth (target ++ ": " ++ hint.text ++ " = " ++ value.text)]
  | ret value => [line depth ("return " ++ value.text)]
  | ifThen test body => line depth ("if " ++ test.text ++ ":") :: linesAll (depth + 1) body

def linesAll (depth : Nat) : List Stmt → List String
  | [] => []
  | s :: rest => lines depth s ++ linesAll depth rest

end

end Stmt

def Argument.text (a : Argument) : String :=
  a.name ++ ((a.hint.map fun e => ": " ++ e.text).getD "")

def defaultText (e : Option Expr) : String := (e.map fun e => "=" ++ e.text).getD ""

namespace Signature

def positionalDefaults (s : Signature) : List (Option Expr) :=
  List.replicate (s.positional.length - s.defaults.length) none ++ s.defaults.map some

def text (s : Signature) : String :=
  let positional := (s.positional.zip s.positionalDefaults).map fun (a, e) =>
    a.text ++ defaultText e
  let keywordOnly := (s.keywordOnly.zip s.keywordDefaults).map fun (a, e) =>
    a.text ++ defaultText e
  ", ".intercalate (positional ++ if keywordOnly.isEmpty then [] else "*" :: keywordOnly)

end Signature

namespace Function

def header (f : Function) : String :=
  (if f.isAsync then "async def " else "def ") ++ f.name ++ "(" ++ f.signature.text ++ ") -> "
    ++ f.returns.text ++ ":"

def docLine (depth : Nat) : Option String → List String
  | none => []
  | some doc => [line depth (Text.writeLongText doc)]

def lines (depth : Nat) (f : Function) : List String :=
  line depth f.header :: (docLine (depth + 1) f.doc ++ Stmt.linesAll (depth + 1) f.body)

end Function

namespace Member

def lines (depth : Nat) : Member → List String
  | stmt s => s.lines depth
  | function f => "" :: f.lines depth

end Member

namespace Class

def header (c : Class) : String :=
  let bases :=
    if c.bases.isEmpty then "" else "(" ++ ", ".intercalate (c.bases.map Expr.text) ++ ")"
  "class " ++ c.name ++ bases ++ ":"

def lines (c : Class) : List String := c.header :: c.body.flatMap (Member.lines 1)

end Class

namespace Item

def lines : Item → List String
  | lateAnnotations => ["from __future__ import annotations"]
  | imported module => ["import " ++ module]
  | typeAlias name value => ["type " ++ name ++ " = " ++ value.text]
  | classDef c => "" :: c.lines

end Item

def checkHoles (holdsBackslash : Bool) (es : List Expr) (text : String) :
    Except PrintError String :=
  let holes := (formats es).flatMap FormatPart.holes
  if !holdsBackslash && holes.any (·.toList.contains '\\') then .error .backslashInHole
  else .ok text

namespace Function

def print (holdsBackslash : Bool) (f : Function) : Except PrintError String :=
  checkHoles holdsBackslash f.exprs ("\n".intercalate (f.lines 0))

end Function

namespace Module

def print (holdsBackslash : Bool) (m : Module) : Except PrintError String :=
  checkHoles holdsBackslash m.exprs
    ("\n".intercalate (Text.writeLongText m.doc :: m.items.flatMap Item.lines) ++ "\n")

end Module

end TypedClient.Target
