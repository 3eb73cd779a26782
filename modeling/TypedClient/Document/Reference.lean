import TypedClient.Document.Value
import TypedClient.Text.Split

namespace TypedClient

inductive ReferenceError
  | remote (pointer : String)
  | unresolvable (pointer : String)
  | notAnObject (pointer : String)
  | circular (pointer : String)
  deriving DecidableEq

def ReferenceError.message : ReferenceError → String
  | .remote pointer => "Only local references are currently supported: " ++ pointer
  | .unresolvable pointer => "Unresolvable reference: " ++ pointer
  | .notAnObject pointer => "Reference does not point at an object: " ++ pointer
  | .circular pointer => "Circular reference: " ++ pointer

namespace Pointer

def decodeKey (token : List Char) : List Char :=
  Text.replacePair '~' '0' '~' (Text.replacePair '~' '1' '/' token)

def keys? (pointer : String) : Option (List String) :=
  match pointer.toList with
  | '#' :: '/' :: rest =>
    some ((Text.splitChars '/' rest).map fun token => String.ofList (decodeKey token))
  | _ => none

def walk : List String → Value → Option Value
  | [], value => some value
  | key :: rest, value => value.get? key >>= walk rest

def target (document : Value) (pointer : String) :
    Except ReferenceError (List Entry) :=
  match keys? pointer with
  | none => .error (.remote pointer)
  | some keys =>
    match walk keys document with
    | none => .error (.unresolvable pointer)
    | some v =>
      match v.entries? with
      | some entries => .ok entries
      | none => .error (.notAnObject pointer)

end Pointer

def pointerOf (entries : List Entry) : Option String :=
  (Value.lookup "$ref" entries).bind Value.text?

namespace Value

mutual

def pointers : Value → List String
  | .list items => itemPointers items
  | .map entries => (pointerOf entries).toList ++ entryPointers entries
  | .named _ v => v.pointers
  | _ => []

def itemPointers : List Value → List String
  | [] => []
  | v :: rest => v.pointers ++ itemPointers rest

def entryPointers : List Entry → List String
  | [] => []
  | (_, v) :: rest => v.pointers ++ entryPointers rest

end

end Value

def without (pointer : String) (fresh : List String) : List String := fresh.filter (· ≠ pointer)

theorem length_without_lt {pointer : String} {fresh : List String} (h : pointer ∈ fresh) :
    (without pointer fresh).length < fresh.length :=
  List.length_filter_lt_length_iff_exists.2 ⟨pointer, h, by simp⟩

/-- Follows pointers until an object without one. Only a pointer that was not followed yet is
followed, so a pointer met for the second time ends the chain. -/
def followFresh (document : Value) (fresh : List String) (entries : List Entry) :
    Except ReferenceError (List Entry) :=
  match pointerOf entries with
  | none => .ok entries
  | some pointer =>
    if _h : pointer ∈ fresh then
      match Pointer.target document pointer with
      | .error e => .error e
      | .ok next => followFresh document (without pointer fresh) next
    else .error (.circular pointer)
termination_by fresh.length
decreasing_by exact length_without_lt _h

structure Linked where
  root : Value
  pointers : Thunk (List String)

def Linked.ofValue (root : Value) : Linked := ⟨root, .mk fun _ => root.pointers⟩

def Linked.follow (document : Linked) (entries : List Entry) :
    Except ReferenceError (List Entry) :=
  match pointerOf entries with
  | none => .ok entries
  | some pointer => followFresh document.root (pointer :: document.pointers.get) entries

end TypedClient
