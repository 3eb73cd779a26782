namespace TypedClient.Target

inductive Constant
  | none
  | true
  | ellipsis
  | text (s : String)
  deriving DecidableEq

/-- A formatted text is made of plain text and of names whose values are filled in. -/
inductive FormatPart
  | text (s : String)
  | hole (name : String)
  deriving DecidableEq

inductive Expr
  | name (id : String)
  | constant (value : Constant)
  | attr (value : Expr) (name : String)
  | subscript (value : Expr) (index : List Expr)
  | call (function : Expr) (args : List Expr) (keywords : List (String × Expr))
  | await (value : Expr)
  | add (left right : Expr)
  | isNone (operand : Expr)
  | isNotNone (operand : Expr)
  | not (operand : Expr)
  | conditional (test body otherwise : Expr)
  | list (items : List Expr)
  | formatted (parts : List FormatPart)

inductive Stmt
  | expr (value : Expr)
  | assign (target value : Expr)
  | annotated (target : String) (hint value : Expr)
  | ret (value : Expr)
  | ifThen (test : Expr) (body : List Stmt)

structure Argument where
  name : String
  hint : Option Expr

/-- The defaults belong to the last positional arguments, one each. -/
structure Signature where
  positional : List Argument
  defaults : List Expr := []
  keywordOnly : List Argument := []
  keywordDefaults : List (Option Expr) := []

structure Function where
  isAsync : Bool
  name : String
  signature : Signature
  doc : Option String := none
  body : List Stmt
  returns : Expr

inductive Member
  | stmt (s : Stmt)
  | function (f : Function)

structure Class where
  name : String
  bases : List Expr
  body : List Member

inductive Item
  | lateAnnotations
  | imported (module : String)
  | typeAlias (name : String) (value : Expr)
  | classDef (c : Class)

structure Module where
  doc : String
  items : List Item

namespace Expr

mutual

def subterms : Expr → List Expr
  | name id => [name id]
  | constant value => [constant value]
  | attr value key => attr value key :: subterms value
  | subscript value index => subscript value index :: (subterms value ++ subtermsAll index)
  | call function args keywords =>
    call function args keywords
      :: (subterms function ++ subtermsAll args ++ keywordSubterms keywords)
  | await value => await value :: subterms value
  | add left right => add left right :: (subterms left ++ subterms right)
  | isNone operand => isNone operand :: subterms operand
  | isNotNone operand => isNotNone operand :: subterms operand
  | not operand => not operand :: subterms operand
  | conditional test body otherwise =>
    conditional test body otherwise
      :: (subterms body ++ subterms test ++ subterms otherwise)
  | list items => list items :: subtermsAll items
  | formatted parts => [formatted parts]

def subtermsAll : List Expr → List Expr
  | [] => []
  | e :: rest => subterms e ++ subtermsAll rest

def keywordSubterms : List (String × Expr) → List Expr
  | [] => []
  | (_, e) :: rest => subterms e ++ keywordSubterms rest

end

def name? : Expr → Option String
  | name id => some id
  | _ => Option.none

def names (e : Expr) : List String := e.subterms.filterMap name?

def format? : Expr → Option (List FormatPart)
  | formatted parts => some parts
  | _ => Option.none

end Expr

namespace Stmt

mutual

def exprs : Stmt → List Expr
  | expr value => [value]
  | assign target value => [target, value]
  | annotated _ hint value => [hint, value]
  | ret value => [value]
  | ifThen test body => test :: exprsAll body

def exprsAll : List Stmt → List Expr
  | [] => []
  | s :: rest => exprs s ++ exprsAll rest

end

end Stmt

namespace Signature

def arguments (s : Signature) : List Argument := s.positional ++ s.keywordOnly

def exprs (s : Signature) : List Expr :=
  s.arguments.filterMap (·.hint) ++ s.defaults ++ s.keywordDefaults.reduceOption

end Signature

def Function.exprs (f : Function) : List Expr :=
  f.signature.exprs ++ Stmt.exprsAll f.body ++ [f.returns]

def Member.exprs : Member → List Expr
  | stmt s => s.exprs
  | function f => f.exprs

def Class.exprs (c : Class) : List Expr := c.bases ++ c.body.flatMap Member.exprs

def Item.exprs : Item → List Expr
  | lateAnnotations => []
  | imported _ => []
  | typeAlias _ value => [value]
  | classDef c => c.exprs

def Module.exprs (m : Module) : List Expr := m.items.flatMap Item.exprs

def formats (es : List Expr) : List (List FormatPart) :=
  (es.flatMap Expr.subterms).filterMap Expr.format?

end TypedClient.Target
