import TypedClient.Target.Syntax

/-!
What running the body of a function comes to. A name that is not local to the function stands for
itself, as do the attributes and elements of what it stands for; a call of the client is recorded
and not followed.
-/

namespace TypedClient.Target.Execution

inductive Datum
  | none
  | ellipsis
  | bool (b : Bool)
  | text (s : String)
  /-- Lists are changed in place: the datum is where the items are. -/
  | list (place : Nat)
  | client
  | global (name : String)
  | attribute (owner : Datum) (name : String)
  | element (owner : Datum) (index : List Datum)
  /-- What a numbered call of the client gives, before and after it is waited for. -/
  | awaitable (call : Nat)
  | reply (call : Nat)

structure Call where
  helper : String
  args : List Datum
  keywords : List (String × Datum)

structure State where
  locals : List (String × Datum)
  lists : List (List Datum)
  calls : List Call := []

namespace State

def bind (s : State) (name : String) (d : Datum) : State :=
  { s with locals := (name, d) :: s.locals }

def replace (s : State) (place : Nat) (items : List Datum) : State :=
  { s with lists := s.lists.set place items }

def record (s : State) (call : Call) : State := { s with calls := s.calls ++ [call] }

end State

inductive Failure
  | unbound (name : String)
  | unsupported

abbrev Result (α : Type) := Except Failure α

namespace Datum

def ofConstant : Constant → Datum
  | .none => none
  | .true => bool true
  | .ellipsis => ellipsis
  | .text s => text s

def format : Datum → Result String
  | none => .ok "None"
  | ellipsis => .ok "Ellipsis"
  | bool true => .ok "True"
  | bool false => .ok "False"
  | text s => .ok s
  | _ => .error .unsupported

def text? : Datum → Option String
  | text s => some s
  | _ => Option.none

def add : Datum → Datum → Result Datum
  | text s, text t => .ok (text (s ++ t))
  | _, _ => .error .unsupported

def isNone : Datum → Bool
  | none => true
  | _ => false

end Datum

namespace State

def items (s : State) (place : Nat) : Result (List Datum) :=
  (s.lists[place]?.map .ok).getD (.error .unsupported)

def truth (s : State) : Datum → Result Bool
  | .none => .ok false
  | .bool b => .ok b
  | .text t => .ok (t ≠ "")
  | .list place => (s.items place).map (!·.isEmpty)
  | .ellipsis => .ok true
  | .client => .ok true
  | _ => .error .unsupported

/-- The scope holds the names that are local, bound or not. -/
def lookup (scope : List String) (s : State) (name : String) : Result Datum :=
  match s.locals.lookup name with
  | some d => .ok d
  | none => if name ∈ scope then .error (.unbound name) else .ok (.global name)

def format (scope : List String) (s : State) : List FormatPart → Result String
  | [] => .ok ""
  | .text t :: rest => return t ++ (← format scope s rest)
  | .hole name :: rest => do
    let written ← (← s.lookup scope name).format
    return written ++ (← format scope s rest)

def call (s : State) : Datum → List Datum → List (String × Datum) → Result (Datum × State)
  | .attribute (.list place) "append", [d], [] => do
    let items ← s.items place
    return (.none, s.replace place (items ++ [d]))
  | .attribute (.text separator) "join", [.list place], [] => do
    let items ← s.items place
    if items.all (·.text?.isSome) then
      return (.text (separator.intercalate (items.filterMap Datum.text?)), s)
    else .error .unsupported
  | .attribute .client helper, args, keywords =>
    return (.awaitable s.calls.length, s.record ⟨helper, args, keywords⟩)
  | _, _, _ => .error .unsupported

end State

section

variable (scope : List String)

mutual

def eval : Expr → State → Result (Datum × State)
  | .name id, s => return (← s.lookup scope id, s)
  | .constant c, s => return (.ofConstant c, s)
  | .attr value key, s => do
    let (d, s) ← eval value s
    return (.attribute d key, s)
  | .subscript value index, s => do
    let (d, s) ← eval value s
    let (ds, s) ← evalAll index s
    return (.element d ds, s)
  | .call function args keywords, s => do
    let (d, s) ← eval function s
    let (ds, s) ← evalAll args s
    let (ks, s) ← evalKeywords keywords s
    s.call d ds ks
  | .await value, s => do
    match ← eval value s with
    | (.awaitable n, s) => return (.reply n, s)
    | _ => .error .unsupported
  | .add left right, s => do
    let (l, s) ← eval left s
    let (r, s) ← eval right s
    return (← l.add r, s)
  | .isNone operand, s => do
    let (d, s) ← eval operand s
    return (.bool d.isNone, s)
  | .isNotNone operand, s => do
    let (d, s) ← eval operand s
    return (.bool !d.isNone, s)
  | .not operand, s => do
    let (d, s) ← eval operand s
    return (.bool !(← s.truth d), s)
  | .conditional test body otherwise, s => do
    let (d, s) ← eval test s
    if ← s.truth d then eval body s else eval otherwise s
  | .list items, s => do
    let (ds, s) ← evalAll items s
    return (.list s.lists.length, { s with lists := s.lists ++ [ds] })
  | .formatted parts, s => return (.text (← s.format scope parts), s)

def evalAll : List Expr → State → Result (List Datum × State)
  | [], s => return ([], s)
  | e :: rest, s => do
    let (d, s) ← eval e s
    let (ds, s) ← evalAll rest s
    return (d :: ds, s)

def evalKeywords : List (String × Expr) → State → Result (List (String × Datum) × State)
  | [], s => return ([], s)
  | (key, e) :: rest, s => do
    let (d, s) ← eval e s
    let (ds, s) ← evalKeywords rest s
    return ((key, d) :: ds, s)

end

mutual

/-- What a statement returns, if it does. The hint of a local is not evaluated. -/
def exec : Stmt → State → Result (Option Datum × State)
  | .expr value, s => return (none, (← eval scope value s).2)
  | .assign (.name id) value, s => do
    let (d, s) ← eval scope value s
    return (none, s.bind id d)
  | .assign _ _, _ => .error .unsupported
  | .annotated id _ value, s => do
    let (d, s) ← eval scope value s
    return (none, s.bind id d)
  | .ret value, s => do
    let (d, s) ← eval scope value s
    return (some d, s)
  | .ifThen test body, s => do
    let (d, s) ← eval scope test s
    if ← s.truth d then execAll body s else return (none, s)

def execAll : List Stmt → State → Result (Option Datum × State)
  | [], s => return (none, s)
  | st :: rest, s => do
    match ← exec st s with
    | (some d, s) => return (some d, s)
    | (none, s) => execAll rest s

end

end

mutual

def targets : Stmt → List String
  | .assign (.name id) _ => [id]
  | .annotated id _ _ => [id]
  | .ifThen _ body => targetsAll body
  | _ => []

def targetsAll : List Stmt → List String
  | [] => []
  | st :: rest => targets st ++ targetsAll rest

end

def scope (f : Function) : List String :=
  f.signature.arguments.map (·.name) ++ targetsAll f.body

def run (f : Function) (s : State) : Result (Datum × State) := do
  let (d, s) ← execAll (scope f) f.body s
  return (d.getD .none, s)

end TypedClient.Target.Execution
