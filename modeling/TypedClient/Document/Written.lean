import TypedClient.Document.Value
import TypedClient.Number.Shortest
import TypedClient.Text.Digits
import TypedClient.Text.Quoted

namespace TypedClient

def numberLayout : NumberLayout := ⟨-4, 16, 2, "inf", "nan"⟩

namespace Scalar

def written : Scalar → String
  | .null => "None"
  | .bool true => "True"
  | .bool false => "False"
  | .int n => toString n
  | .float x => numberLayout.render x
  | .text s => Text.quoted s
  | .date d => d.constructor
  | .timestamp t => t.constructor
  | .bytes bs => "b" ++ Text.quotedBytes bs

def isWritable : Scalar → Bool
  | .int n => n.natAbs < Nat.pow 10 Text.maxDigits
  | _ => true

def plain : Scalar → String
  | .text s => s
  | .date d => d.iso
  | .timestamp t => t.iso
  | s => s.written

end Scalar

namespace Value

def ellipsis (isMap : Bool) : String := if isMap then "\x7b...\x7d" else "[...]"

mutual

def writtenIn (outer : List Nat) : Value → String
  | .scalar s => s.written
  | .list items => "[" ++ ", ".intercalate (writtenItems outer items) ++ "]"
  | .map entries => "\x7b" ++ ", ".intercalate (writtenEntries outer entries) ++ "\x7d"
  | .set [] => "set()"
  | .set members => "\x7b" ++ ", ".intercalate (members.map Scalar.written) ++ "\x7d"
  | .pair first second => "(" ++ first.writtenIn outer ++ ", " ++ second.writtenIn outer ++ ")"
  | .named name v => if name ∈ outer then ellipsis v.isMap else v.writtenIn (name :: outer)
  | .again _ isMap => ellipsis isMap

def writtenItems (outer : List Nat) : List Value → List String
  | [] => []
  | v :: rest => v.writtenIn outer :: writtenItems outer rest

def writtenEntries (outer : List Nat) : List Entry → List String
  | [] => []
  | (k, v) :: rest => (k.written ++ ": " ++ v.writtenIn outer) :: writtenEntries outer rest

end

def written (v : Value) : String := v.writtenIn []

mutual

def isWritable : Value → Bool
  | .scalar s => s.isWritable
  | .list items => areWritable items
  | .map entries => haveWritable entries
  | .set members => members.all Scalar.isWritable
  | .pair first second => first.isWritable && second.isWritable
  | .named _ v => v.isWritable
  | .again .. => true

def areWritable : List Value → Bool
  | [] => true
  | v :: rest => v.isWritable && areWritable rest

def haveWritable : List Entry → Bool
  | [] => true
  | (k, v) :: rest => k.isWritable && v.isWritable && haveWritable rest

end

def plain : Value → String
  | .scalar s => s.plain
  | v => v.written

end Value

def cutAt (end' : Int) (cs : List Char) : List Char :=
  if 0 ≤ end' then cs.take end'.toNat else cs.take (cs.length - (-end').toNat)

def shorten (limit : Int) (s : String) : String :=
  if (s.length : Int) ≤ limit then s
  else String.ofList (cutAt (limit - 3) s.toList) ++ "..."

end TypedClient
