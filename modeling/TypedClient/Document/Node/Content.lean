import TypedClient.Document.Loop
import TypedClient.Document.Node
import TypedClient.Document.Scalar

/-!
What the nodes of a document hold. A collection is begun where it is first met and filled later;
collections are filled in the order in which they are begun, so of two faults in a document the
one that is met first counts.
-/

namespace TypedClient

namespace Node

inductive Content
  | scalar (s : Scalar)
  | begun
  | list (items : List Nat)
  | map (entries : List (Scalar × Nat))
  | set (members : List Scalar)
  | pairs (items : List (Nat × Nat))

abbrev Contents := Array (Option Content)

structure Filling where
  nodes : Nodes
  contents : Contents
  pending : List Nat
  size : Nat

end Node

open Node (Content Contents Filling)

abbrev Fill := StateT Filling (Except DocumentError)

namespace Node.Filling

def malformed {α : Type} : Fill α := throw .malformed

def node (number : Nat) : Fill Node := do
  match (← get).nodes[number]? with
  | some node => return node
  | none => malformed

def setNode (number : Nat) (node : Node) : Fill Unit :=
  modify fun f => { f with nodes := f.nodes.setIfInBounds number node }

def setContent (number : Nat) (content : Content) : Fill Unit :=
  modify fun f => { f with contents := f.contents.setIfInBounds number (some content) }

def readScalar (t : ScalarTag) (number : Nat) : Fill Scalar := do
  let nodes := (← get).nodes
  match nodes.text nodes.size number with
  | none => malformed
  | some s =>
    if t = .timestamp ∧ (← node number).entries?.isSome then throw .collectionAsTimestamp
    Scalar.ofTag t s

def begin (number : Nat) : Fill Unit := do
  if ((← get).contents[number]?.getD none).isNone then
    match (← node number).tag with
    | .scalar t => setContent number (.scalar (← readScalar t number))
    | .collection _ =>
      setContent number .begun
      modify fun f => { f with pending := number :: f.pending }
    | .unknown => malformed

def key (number : Nat) : Fill Scalar := do
  begin number
  match (← get).contents[number]? with
  | some (some (.scalar s)) => return s
  | _ => malformed

def asText (key : Nat) : Fill Unit := do
  let key' ← node key
  if key'.tag = .scalar .value then setNode key (key'.withTag (.scalar .text))

def splitMerge (nodes : Nodes) (entries : List (Nat × Nat)) : Option (Nat × List (Nat × Nat)) :=
  match entries.span fun (key, _) => !nodes.isMergeKey key with
  | (before, (_, value) :: after) => some (value, before ++ after)
  | (_, []) => none

mutual

def flatten (fuel number : Nat) (taken : List (Nat × Nat)) : Fill Unit := do
  match ← node number with
  | .map tag entries =>
    match fuel, splitMerge (← get).nodes entries with
    | fuel + 1, some (value, others) =>
      setNode number (.map tag others)
      flatten fuel number (taken ++ (← takenFrom fuel value))
    | _, _ =>
      entries.forM fun (k, _) => asText k
      setNode number (.map tag (taken ++ entries))
  | _ => malformed
termination_by 2 * fuel

def takenFrom (fuel number : Nat) : Fill (List (Nat × Nat)) := do
  match fuel, ← node number with
  | fuel + 1, .map .. => flattened fuel number
  | fuel + 1, .list _ items =>
    let found ← items.mapM (flattened fuel)
    return found.reverse.flatten
  | _, _ => malformed
termination_by 2 * fuel

def flattened (fuel number : Nat) : Fill (List (Nat × Nat)) := do
  flatten fuel number []
  return ((← node number).entries?).getD []
termination_by 2 * fuel + 1

end

def members (number : Nat) : Fill (List (Scalar × Nat)) := do
  let entries ← flattened (2 * (← get).size + 2) number
  let found ← entries.mapM fun (k, v) => do
    let s ← key k
    begin v
    return (s, v)
  return found.foldl (fun done (k, v) => Scalar.put k v done) []

def pair (number : Nat) : Fill (Nat × Nat) := do
  match ← node number with
  | .map _ [(first, second)] =>
    begin first
    begin second
    return (first, second)
  | _ => malformed

def content (number : Nat) : Fill Content := do
  match ← node number with
  | .list (.collection .list) items =>
    items.forM begin
    return .list items
  | .list (.collection .pairs) items => return .pairs (← items.mapM pair)
  | .map (.collection .map) _ => return .map (← members number)
  | .map (.collection .set) _ => return .set ((← members number).map (·.1))
  | _ => malformed

def fill (number : Nat) : Fill Unit := do setContent number (← content number)

def fillAll (fuel : Nat) : Fill Unit := do
  match fuel, (← get).pending.reverse with
  | _, [] => return
  | 0, _ => malformed
  | fuel + 1, numbers =>
    modify fun f => { f with pending := [] }
    numbers.forM fill
    fillAll fuel

end Node.Filling

namespace Nodes

def contents (nodes : Nodes) (root : Nat) : Except DocumentError Contents := do
  let size := nodes.foldl (fun n node => n + (node.entries?.getD []).length) 0
  let filling : Fill Unit := do
    Filling.begin root
    Filling.fillAll (nodes.size + 1)
  let (_, f) ← filling.run ⟨nodes, nodes.map fun _ => none, [], size⟩
  return f.contents

end Nodes

namespace Node.Contents

def isMap (contents : Contents) (number : Nat) : Bool :=
  match contents[number]? with
  | some (some (.map _)) => true
  | _ => false

structure Made where
  values : Array (Option Value)
  hasLoops : Bool

/-- The value of a node inside those of a path, and which of these it names. A node that is named
in several places is looked into once. -/
def value (contents : Contents) (fuel : Nat) (path : List Nat) (number : Nat) :
    StateM Made (Value × List Nat) := do
  match fuel, path.contains number, ((← get).values[number]?).join with
  | _, true, _ => return (.again number (contents.isMap number), [number])
  | _, _, some v => return (v, [])
  | 0, _, _ => return (.null, [])
  | fuel + 1, _, _ =>
    let part (n : Nat) := contents.value fuel (number :: path) n
    let (v, loops) ←
      match (contents[number]?).join with
      | some (.scalar s) => pure (.scalar s, [])
      | some (.list items) =>
        let found ← items.mapM part
        pure (.list (found.map (·.1)), found.flatMap (·.2))
      | some (.map entries) =>
        let found ← entries.mapM fun (k, n) => return (k, ← part n)
        pure (.map (found.map fun (k, v, _) => (k, v)), found.flatMap fun (_, _, loops) => loops)
      | some (.set members) => pure (.set members, [])
      | some (.pairs items) =>
        let found ← items.mapM fun (first, second) => return (← part first, ← part second)
        pure (.list (found.map fun (a, b) => .pair a.1 b.1), found.flatMap fun (a, b) => a.2 ++ b.2)
      | _ => pure (.null, [])
    if loops.isEmpty then
      modify fun made => { made with values := made.values.setIfInBounds number (some v) }
      return (v, [])
    modify fun made => { made with hasLoops := true }
    return (.named number v, (loops.filter (· != number)).eraseDups)

end Node.Contents

def Nodes.value (nodes : Nodes) (root : Nat) : Except DocumentError Value := do
  let contents ← nodes.contents root
  let ((v, _), made) :=
    (contents.value (nodes.size + 1) [] root).run ⟨nodes.map fun _ => none, false⟩
  return if made.hasLoops then v.unrolled else v

end TypedClient
