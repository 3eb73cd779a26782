import TypedClient.Number.Binary64

namespace TypedClient.Target

inductive Literal
  | none
  | bool (value : Bool)
  | ellipsis
  | int (value : Nat)
  | float (value : Binary64)
  | imaginary (value : Binary64)
  | text (value : String)
  | bytes (value : List UInt8)
  deriving BEq

inductive UnaryOp
  | plus
  | minus
  | invert
  | not
  deriving DecidableEq

inductive BinaryOp
  | bitOr
  | bitXor
  | bitAnd
  | shiftLeft
  | shiftRight
  | add
  | sub
  | mul
  | div
  | floorDiv
  | mod
  | matMul
  | pow
  deriving DecidableEq

inductive Comparison
  | eq
  | ne
  | lt
  | le
  | gt
  | ge
  | isSame
  | isOther
  | isIn
  | isNotIn
  deriving DecidableEq

inductive Term
  | name (id : String)
  | literal (value : Literal)
  | attribute (value : Term) (name : String)
  | subscript (value index : Term)
  | slice (bounds : List Term)
  | call (function : Term) (args : List Term) (keywords : List (String × Term))
  | unary (op : UnaryOp) (operand : Term)
  | binary (op : BinaryOp) (left right : Term)
  | compare (first : Term) (rest : List (Comparison × Term))
  | conjunction (left right : Term)
  | disjunction (left right : Term)
  | conditional (test body otherwise : Term)
  | function (defaults : List Term)
  | tuple (items : List Term)
  | list (items : List Term)
  | set (items : List Term)
  | dict (entries : List (Term × Term))
  | unpacked (value : Term)
  | comprehension (source : Term)
  deriving Inhabited

end TypedClient.Target
