namespace TypedClient.Watch

/-- The time to compare with at the next look, and whether this look shows a change. A file that
is missing changes nothing. -/
def look (last : Option Int) (now : Option Int) : Option Int × Bool :=
  match now with
  | none => (last, false)
  | some time => if last = some time then (last, false) else (some time, true)

def changes (last : Option Int) : List (Option Int) → List Bool
  | [] => []
  | now :: rest => (look last now).2 :: changes (look last now).1 rest

def changedLooks (initial : Option Int) (seen : List (Option Int)) : List Nat :=
  ((changes initial seen).zipIdx 1).filterMap fun (changed, n) => if changed then some n else none

def extend (initial : Option Int) (looks : Nat) (steps : List (Option Int)) : List (Option Int) :=
  let last := (steps.getLast?).getD initial
  steps.take looks ++ List.replicate (looks - steps.length) last

end TypedClient.Watch
