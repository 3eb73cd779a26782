import TypedClient.Document.Tag

namespace TypedClient

inductive Node
  | scalar (tag : Tag) (text : String)
  | list (tag : Tag) (items : List Nat)
  | map (tag : Tag) (entries : List (Nat × Nat))

namespace Node

def absent : Node := scalar (.scalar .null) ""

def tag : Node → Tag
  | scalar t _ => t
  | list t _ => t
  | map t _ => t

def withTag (t : Tag) : Node → Node
  | scalar _ text => scalar t text
  | list _ items => list t items
  | map _ entries => map t entries

def entries? : Node → Option (List (Nat × Nat))
  | map _ entries => some entries
  | _ => none

end Node

abbrev Nodes := Array Node

namespace Nodes

def tag (nodes : Nodes) (number : Nat) : Option Tag := nodes[number]?.map Node.tag

def isMergeKey (nodes : Nodes) (number : Nat) : Bool := nodes.tag number == some (.scalar .merge)

def isValueKey (nodes : Nodes) (number : Nat) : Bool := nodes.tag number == some (.scalar .value)

def text (nodes : Nodes) (fuel number : Nat) : Option String :=
  match fuel, nodes[number]? with
  | _, some (.scalar _ s) => some s
  | fuel + 1, some (.map _ entries) =>
    match entries.find? fun (key, _) => nodes.isValueKey key with
    | some (_, value) => nodes.text fuel value
    | none => none
  | _, _ => none

end Nodes

end TypedClient
