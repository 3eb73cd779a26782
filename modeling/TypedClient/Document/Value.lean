import TypedClient.Calendar
import TypedClient.Number.Binary64

namespace TypedClient

inductive Scalar
  | null
  | bool (b : Bool)
  | int (n : Int)
  | float (x : Binary64)
  | text (s : String)
  | date (d : Date)
  | timestamp (t : Timestamp)
  | bytes (bs : List UInt8)
  deriving DecidableEq

/-- A document as read: entries keep the order in which their keys first appear. A collection may
lie inside itself: it is then `named`, and `again` stands for it further in. -/
inductive Value
  | scalar (s : Scalar)
  | list (items : List Value)
  | map (entries : List (Scalar × Value))
  | set (members : List Scalar)
  | pair (first second : Value)
  | named (name : Nat) (value : Value)
  | again (name : Nat) (isMap : Bool)
  deriving Inhabited

abbrev Entry := Scalar × Value

namespace Scalar

def number? : Scalar → Option (Int ⊕ Binary64)
  | .bool b => some (.inl (if b then 1 else 0))
  | .int n => some (.inl n)
  | .float x => some (.inr x)
  | _ => none

def instant? : Scalar → Option Int
  | .timestamp t => t.instant?
  | _ => none

def sameNumber : Int ⊕ Binary64 → Int ⊕ Binary64 → Bool
  | .inl m, .inl n => m == n
  | .inl m, .inr x => x.equalsInt m
  | .inr x, .inl m => x.equalsInt m
  | .inr x, .inr y => x == y || (x.isZero && y.isZero)

/-- Whether two keys name the same entry: numbers and truth values by their value, times with an
offset by their instant, all else by what it is. -/
def sameKey (a b : Scalar) : Bool :=
  match a.number?, b.number? with
  | some x, some y => sameNumber x y
  | _, _ =>
    match a.instant?, b.instant? with
    | some x, some y => x == y
    | _, _ => a == b

def put {α : Type} (key : Scalar) (value : α) : List (Scalar × α) → List (Scalar × α)
  | [] => [(key, value)]
  | (k, v) :: rest => if k.sameKey key then (k, value) :: rest else (k, v) :: put key value rest

end Scalar

namespace Value

def null : Value := .scalar .null

def text (s : String) : Value := .scalar (.text s)

def text? : Value → Option String
  | .scalar (.text s) => some s
  | _ => none

def entries? : Value → Option (List Entry)
  | .map entries => some entries
  | .named _ v => v.entries?
  | _ => none

def items? : Value → Option (List Value)
  | .list items => some items
  | .named _ v => v.items?
  | _ => none

def isMap : Value → Bool
  | .map _ => true
  | .named _ v => v.isMap
  | .again _ isMap => isMap
  | _ => false

def isList : Value → Bool
  | .list _ => true
  | .named _ v => v.isList
  | .again _ isMap => !isMap
  | _ => false

def lookup (key : String) : List Entry → Option Value
  | [] => none
  | (k, v) :: rest => if k = .text key then some v else lookup key rest

def get? (key : String) (v : Value) : Option Value := v.entries? >>= lookup key

def isTruthy : Value → Bool
  | .scalar .null => false
  | .scalar (.bool b) => b
  | .scalar (.int n) => n != 0
  | .scalar (.float x) => !x.isZero
  | .scalar (.text s) => s != ""
  | .scalar (.bytes bs) => !bs.isEmpty
  | .scalar _ => true
  | .list items => !items.isEmpty
  | .map entries => !entries.isEmpty
  | .set members => !members.isEmpty
  | .named _ v => v.isTruthy
  | .pair .. => true
  | .again .. => true

end Value

end TypedClient
