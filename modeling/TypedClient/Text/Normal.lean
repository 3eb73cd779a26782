import TypedClient.Text.NormalTable
import TypedClient.Text.Split

/-!
The normal form of an identifier: characters are taken apart into what they stand for, their marks
are put in order, and what belongs together is composed again.
-/

namespace TypedClient.Text

def hexNumber (cs : List Char) : Nat :=
  cs.foldl (fun n c => n * 16 + (if c.isDigit then c.toNat - 0x30 else c.toNat - 0x57)) 0

def tableOf (rows : List String) : List (List Nat) :=
  rows.flatMap fun row =>
    (splitChars ' ' row.toList).map fun entry => (splitChars '-' entry).map hexNumber

def triples (rows : List String) : List (Nat × Nat × Nat) :=
  (tableOf rows).filterMap fun
    | [a, b, c] => some (a, b, c)
    | _ => none

def imageRuns : List (Nat × Nat × Nat) := triples imageRows

def imageSequences : List (Nat × List Nat) :=
  (tableOf sequenceRows).filterMap fun
    | code :: images => some (code, images)
    | [] => none

def compositions : List (Nat × Nat × Nat) := triples compositionRows

def markClasses : List (Nat × Nat × Nat) := triples markRows

def syllableBase : Nat := 0xac00

def isSyllable (code : Nat) : Bool := syllableBase ≤ code && code < syllableBase + 11172

def syllableLetters (code : Nat) : List Nat :=
  let n := code - syllableBase
  let tail := n % 28
  [0x1100 + n / 588, 0x1161 + n % 588 / 28] ++ (if tail = 0 then [] else [0x11a7 + tail])

def composeSyllable? (first second : Nat) : Option Nat :=
  if 0x1100 ≤ first ∧ first < 0x1113 ∧ 0x1161 ≤ second ∧ second < 0x1176 then
    some (syllableBase + ((first - 0x1100) * 21 + (second - 0x1161)) * 28)
  else if isSyllable first ∧ (first - syllableBase) % 28 = 0
      ∧ 0x11a7 < second ∧ second < 0x11c3 then
    some (first + (second - 0x11a7))
  else none

def image? (code : Nat) : Option Nat :=
  (imageRuns.find? fun (first, last, _) => first ≤ code && code ≤ last).map
    fun (first, _, image) => image + (code - first)

def halves? (code : Nat) : Option (Nat × Nat) :=
  (compositions.find? fun (_, _, whole) => whole == code).map fun (a, b, _) => (a, b)

def nesting : Nat := 4

def apart (depth : Nat) (code : Nat) : List Nat :=
  if isSyllable code then syllableLetters code
  else
    match image? code, imageSequences.lookup code with
    | some image, _ => [image]
    | none, some images => images
    | none, none =>
      match depth, halves? code with
      | depth + 1, some (a, b) => apart depth a ++ apart depth b
      | _, _ => [code]

def markClass (code : Nat) : Nat :=
  ((markClasses.find? fun (first, last, _) => first ≤ code && code ≤ last).map (·.2.2)).getD 0

/-- Puts a mark before the marks of higher classes that precede it. `before` has the last
character first. -/
def insertMark (code : Nat) : List Nat → List Nat
  | [] => [code]
  | last :: before =>
    if markClass code < markClass last then last :: insertMark code before
    else code :: last :: before

def orderMarks (codes : List Nat) : List Nat :=
  (codes.foldl
    (fun before code => if markClass code = 0 then code :: before else insertMark code before)
    []).reverse

def compose? (first second : Nat) : Option Nat :=
  match composeSyllable? first second with
  | some whole => some whole
  | none =>
    (compositions.find? fun (a, b, _) => a == first && b == second).map (·.2.2)

/-- Composes a character with those after it. `marks` follow it and stay apart, the last one first;
they hide it from what has no higher class. -/
def composeAfter (base : Nat) (marks : List Nat) : List Nat → List Nat
  | [] => base :: marks.reverse
  | code :: rest =>
    let isHidden :=
      (marks.head?.map fun mark => decide (markClass code ≤ markClass mark)).getD false
    match if isHidden then none else compose? base code with
    | some whole => composeAfter whole marks rest
    | none =>
      if markClass code = 0 then base :: marks.reverse ++ composeAfter code [] rest
      else composeAfter base (code :: marks) rest

def composeAll (codes : List Nat) : List Nat :=
  match codes.dropWhile (markClass · != 0) with
  | [] => codes
  | base :: rest => codes.takeWhile (markClass · != 0) ++ composeAfter base [] rest

def normal (s : String) : String :=
  if s.toList.all (·.toNat < 0x80) then s
  else
    let codes := orderMarks (s.toList.flatMap fun c => apart nesting c.toNat)
    String.ofList ((composeAll codes).map Char.ofNat)

end TypedClient.Text
