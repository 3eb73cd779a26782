import TypedClient.Text.Case
import TypedClient.Text.Split

namespace TypedClient

def keywords : List String :=
  ["False", "None", "True", "and", "as", "assert", "async", "await", "break", "class", "continue",
   "def", "del", "elif", "else", "except", "finally", "for", "from", "global", "if", "import",
   "in", "is", "lambda", "nonlocal", "not", "or", "pass", "raise", "return", "try", "while",
   "with", "yield"]

def identifier (reserved : List String) (name : String) : String :=
  if name ∈ keywords ∨ name ∈ reserved then name ++ "_" else name

/-- Appends underscores until the name is not taken. A refused name leaves the list: every later
candidate is longer. -/
def firstFree (taken : List String) (name : String) : String :=
  if _h : name ∈ taken then firstFree (taken.erase name) (name ++ "_") else name
termination_by taken.length
decreasing_by
  have := List.length_pos_of_mem _h
  rw [List.length_erase_of_mem _h]
  omega

def isFixedSegment (segment : String) : Bool :=
  match segment.toList with
  | [] => false
  | c :: _ => c != '{'

/-- The operation id with a capital first letter, or else the verb and the fixed path segments,
each with one. -/
def methodName (verb path : String) (operationId : Option String) : String :=
  match operationId.filter (· ≠ "") with
  | some id => Text.upperLead id
  | none =>
    Text.upperLead (Text.lower verb)
      ++ String.join (((Text.split '/' path).filter isFixedSegment).map Text.upperLead)

end TypedClient
