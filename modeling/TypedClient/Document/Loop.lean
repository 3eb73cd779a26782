import TypedClient.Document.Value

namespace TypedClient.Value

mutual

def close (known : List (Nat × Value)) : Value → Value
  | .again name isMap => (known.lookup name).getD (.again name isMap)
  | .named name v => .named name (v.close (known.filter (·.1 != name)))
  | .list items => .list (closeItems known items)
  | .map entries => .map (closeEntries known entries)
  | .pair first second => .pair (first.close known) (second.close known)
  | v => v

def closeItems (known : List (Nat × Value)) : List Value → List Value
  | [] => []
  | v :: rest => v.close known :: closeItems known rest

def closeEntries (known : List (Nat × Value)) : List Entry → List Entry
  | [] => []
  | (k, v) :: rest => (k, v.close known) :: closeEntries known rest

end

mutual

def unroll (known : List (Nat × Value)) : Value → Value
  | .again name isMap => (known.lookup name).getD (.again name isMap)
  | .named name v =>
    .named name (v.unroll ((name, .named name (v.close (known.filter (·.1 != name)))) :: known))
  | .list items => .list (unrollItems known items)
  | .map entries => .map (unrollEntries known entries)
  | .pair first second => .pair (first.unroll known) (second.unroll known)
  | v => v

def unrollItems (known : List (Nat × Value)) : List Value → List Value
  | [] => []
  | v :: rest => v.unroll known :: unrollItems known rest

def unrollEntries (known : List (Nat × Value)) : List Entry → List Entry
  | [] => []
  | (k, v) :: rest => (k, v.unroll known) :: unrollEntries known rest

end

/-- A whole value, in which every loop can be followed for two turns. -/
def unrolled (v : Value) : Value := (v.unroll []).unroll []

end TypedClient.Value
