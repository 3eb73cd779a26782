import TypedClient.Target.Fault

namespace TypedClient.Target

abbrev Outcome := Except Fault

def misfit {α : Type} (reason : Misfit) : Outcome α := .error (.misfit reason)

def zeroDivision {α : Type} (reason : ZeroDivision) : Outcome α := .error (.zeroDivision reason)

namespace Object

def int? : Object → Option Int
  | constant (.int n) => some n
  | constant (.bool b) => some (if b then 1 else 0)
  | _ => none

def float? : Object → Option Float
  | constant (.float x) => some x.toFloat
  | o => o.int?.map Float.ofInt

def isFloat : Object → Bool
  | constant (.float _) => true
  | _ => false

def ofFloat (x : Float) : Object := .constant (.float (.ofFloat x))

def bitwise (op : Nat → Nat → Nat) (m n : Int) : Int :=
  let width := max (Nat.log2 m.natAbs) (Nat.log2 n.natAbs) + 2
  let modulus := Nat.pow 2 width
  let bits := op (m % modulus).toNat (n % modulus).toNat
  if modulus ≤ 2 * bits then (bits : Int) - modulus else bits

def ofInts (op : BinaryOp) (m n : Int) : Option (Outcome Object) :=
  match op with
  | .bitOr => some (.ok (.ofInt (bitwise (· ||| ·) m n)))
  | .bitXor => some (.ok (.ofInt (bitwise (· ^^^ ·) m n)))
  | .bitAnd => some (.ok (.ofInt (bitwise (· &&& ·) m n)))
  | .shiftLeft =>
    some (if n < 0 then .error .negativeShift else .ok (.ofInt (m * Nat.pow 2 n.toNat)))
  | .shiftRight =>
    some (if n < 0 then .error .negativeShift else .ok (.ofInt (Int.fdiv m (Nat.pow 2 n.toNat))))
  | .add => some (.ok (.ofInt (m + n)))
  | .sub => some (.ok (.ofInt (m - n)))
  | .mul => some (.ok (.ofInt (m * n)))
  | .div =>
    some (if n = 0 then zeroDivision .quotient else .ok (.ofFloat (Float.ofInt m / Float.ofInt n)))
  | .floorDiv => some (if n = 0 then zeroDivision .wholeQuotient else .ok (.ofInt (Int.fdiv m n)))
  | .mod => some (if n = 0 then zeroDivision .remainder else .ok (.ofInt (Int.fmod m n)))
  | .matMul => none
  | .pow =>
    some (if 0 ≤ n then .ok (.ofInt (Int.pow m n.toNat))
      else if m = 0 then zeroDivision .power
      else .ok (.ofFloat (Float.pow (Float.ofInt m) (Float.ofInt n))))

def ofFloats (op : BinaryOp) (x y : Float) : Option (Outcome Object) :=
  match op with
  | .add => some (.ok (.ofFloat (x + y)))
  | .sub => some (.ok (.ofFloat (x - y)))
  | .mul => some (.ok (.ofFloat (x * y)))
  | .div => some (if y == 0 then zeroDivision .floatQuotient else .ok (.ofFloat (x / y)))
  | .floorDiv =>
    some (if y == 0 then zeroDivision .floatWholeQuotient else .ok (.ofFloat (x / y).floor))
  | .mod =>
    some (if y == 0 then zeroDivision .floatRemainder
      else .ok (.ofFloat (x - y * (x / y).floor)))
  | .pow =>
    some (if x == 0 && y < 0 then zeroDivision .power else .ok (.ofFloat (Float.pow x y)))
  | _ => none

def ofTruths (op : BinaryOp) (a b : Bool) : Option Object :=
  match op with
  | .bitOr => some (.ofBool (a || b))
  | .bitXor => some (.ofBool (a != b))
  | .bitAnd => some (.ofBool (a && b))
  | _ => none

def numeric? (op : BinaryOp) (left right : Object) : Option (Outcome Object) :=
  let truth :=
    match left, right with
    | constant (.bool a), constant (.bool b) => ofTruths op a b
    | _, _ => none
  match truth, left.int?, right.int? with
  | some o, _, _ => some (.ok o)
  | none, some m, some n => ofInts op m n
  | none, _, _ => do ofFloats op (← left.float?) (← right.float?)

def isSequence : Object → Bool
  | constant (.text _) => true
  | constant (.bytes _) => true
  | list _ => true
  | tuple _ => true
  | _ => false

def repeated (count : Nat) : Object → Object
  | constant (.text s) => .ofText (String.join (List.replicate count s))
  | constant (.bytes bs) => constant (.bytes (List.replicate count bs).flatten)
  | list items => list (List.replicate count items).flatten
  | tuple items => tuple (List.replicate count items).flatten
  | o => o

def concatenated? : Object → Object → Option Object
  | constant (.text s), constant (.text t) => some (.ofText (s ++ t))
  | constant (.bytes s), constant (.bytes t) => some (constant (.bytes (s ++ t)))
  | list s, list t => some (list (s ++ t))
  | tuple s, tuple t => some (tuple (s ++ t))
  | _, _ => none

def isIn (items : List Object) (o : Object) : Bool := items.any (same o)

def distinct (items : List Object) : List Object :=
  items.foldl (fun kept o => if isIn kept o then kept else kept ++ [o]) []

def putEntry (entries : List (Object × Object)) (entry : Object × Object) :
    List (Object × Object) :=
  if entries.any fun (key, _) => same key entry.1 then
    entries.map fun (key, o) => if same key entry.1 then (key, entry.2) else (key, o)
  else entries ++ [entry]

def sequence? (op : BinaryOp) (left right : Object) : Option (Outcome Object) :=
  match op with
  | .add =>
    if left.isSequence then
      some (((concatenated? left right).map .ok).getD (misfit (.concatenation left right)))
    else none
  | .mul =>
    if left.isSequence then
      some ((right.int?.map fun n => .ok (left.repeated n.toNat)).getD (misfit (.repetition right)))
    else if right.isSequence then
      some ((left.int?.map fun n => .ok (right.repeated n.toNat)).getD (misfit (.repetition left)))
    else none
  | _ => none

def collection? (op : BinaryOp) (left right : Object) : Option Object :=
  match op, left, right with
  | .bitOr, set s, set t => some (set (distinct (s ++ t)))
  | .bitAnd, set s, set t => some (set (s.filter (isIn t)))
  | .sub, set s, set t => some (set (s.filter (!isIn t ·)))
  | .bitXor, set s, set t => some (set (s.filter (!isIn t ·) ++ t.filter (!isIn s ·)))
  | .bitOr, dict s, dict t => some (dict (t.foldl putEntry s))
  | _, _, _ => none

end Object

end TypedClient.Target
