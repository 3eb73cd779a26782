import TypedClient.Document.Token
import TypedClient.Text.Surrogate

namespace TypedClient.Token

abbrev Result := Except DocumentError

def fold (first : Char) (others : List Char) : List Char :=
  (if first != '\n' then [first] else if others.isEmpty then [' '] else []) ++ others

def add (text more : List Char) : List Char := more.reverseAux text

def endsPlainRun (inFlow : Bool) (c : Char) (next : Option Char) : Bool :=
  isSpacing (some c)
    || (c == ':' && (isSpacing next
      || (inFlow && (next.map [',', '[', ']', '{', '}'].contains).getD false)))
    || (inFlow && [',', '?', '[', ']', '{', '}'].contains c)

def plainRun (inFlow : Bool) : List Char → List Char
  | [] => []
  | c :: rest =>
    if endsPlainRun inFlow c rest.head? then [] else c :: plainRun inFlow rest

def plainBreaks (fuel : Nat) (found : List Char) (c : Cursor) : Option (List Char) × Cursor :=
  match fuel with
  | 0 => (some found, c)
  | fuel + 1 =>
    match c.peek with
    | some ' ' => plainBreaks fuel found c.next
    | some ch =>
      if isLineBreak ch then
        let (br, c) := c.lineBreak
        if atDocumentMark c then (none, c)
        else plainBreaks fuel (found ++ br.toList) c
      else (some found, c)
    | none => (some found, c)

structure Gap where
  text : List Char
  breaksLine : Bool
  continues : Bool

def plainGap (c : Cursor) : Gap × Cursor :=
  let (spaces, c) := c.takeWhile (· == ' ')
  match c.lineBreak with
  | (none, c) => (⟨spaces, false, !spaces.isEmpty⟩, c)
  | (some br, c) =>
    if atDocumentMark c then (⟨[], true, false⟩, c)
    else
      match plainBreaks c.left [] c with
      | (none, c) => (⟨[], true, false⟩, c)
      | (some breaks, c) => (⟨fold br breaks, true, true⟩, c)

def plainFrom (inFlow : Bool) (indent : Int) (text gap : List Char) (broken : Bool) (c : Cursor) :
    (List Char × Bool) × Cursor :=
  let run := if c.peek = some '#' then [] else plainRun inFlow c.rest
  if run.isEmpty then ((text, broken), c)
  else
    let c' := c.advance run.length
    let (next, c'') := plainGap c'
    let text := add (add text gap) run
    if !next.continues || c''.peek = some '#' || (!inFlow && (c''.column : Int) < indent) then
      ((text, next.breaksLine), c'')
    else if _h : c''.left < c.left then
      plainFrom inFlow indent text next.text next.breaksLine c''
    else ((text, next.breaksLine), c'')
termination_by c.left

def plain (inFlow : Bool) (indent : Int) (c : Cursor) : (String × Bool) × Cursor :=
  let ((text, broken), c) := plainFrom inFlow (indent + 1) [] [] false c
  ((String.ofList text.reverse, broken), c)

def escapes : List (Char × Char) :=
  [('0', '\x00'), ('a', '\x07'), ('b', '\x08'), ('t', '\t'), ('\t', '\t'), ('n', '\n'),
   ('v', '\x0b'), ('f', '\x0c'), ('r', '\r'), ('e', '\x1b'), (' ', ' '), ('\x22', '\x22'),
   ('\\', '\\'), ('/', '/'), ('N', '\x85'), ('_', '\xa0'), ('L', '\u2028'), ('P', '\u2029')]

def codeLength : Char → Option Nat
  | 'x' => some 2
  | 'u' => some 4
  | 'U' => some 8
  | _ => none

def hexValue? (c : Char) : Option Nat :=
  if '0' ≤ c ∧ c ≤ '9' then some (c.toNat - '0'.toNat)
  else if 'a' ≤ c ∧ c ≤ 'f' then some (c.toNat - 'a'.toNat + 10)
  else if 'A' ≤ c ∧ c ≤ 'F' then some (c.toNat - 'A'.toNat + 10)
  else none

def readHex : List Char → Option Nat
  | cs => cs.foldl (fun n c => do return (← n) * 16 + (← hexValue? c)) (some 0)

def hexCode (length : Nat) (cs : List Char) : Option Nat :=
  if cs.length < length then none else readHex (cs.take length)

def numbered (length : Nat) (cs : List Char) : Result Char :=
  match hexCode length cs with
  | none => .error .malformed
  | some n =>
    if 0x80000000 ≤ n then .error .wideCodePoint
    else if 0x110000 ≤ n then .error .codePoint
    else .ok (Text.ofCodePoint n)

def quotedBreaks (fuel : Nat) (found : List Char) (c : Cursor) : Result ((List Char) × Cursor) :=
  match fuel with
  | 0 => .ok (found, c)
  | fuel + 1 =>
    if atDocumentMark c then .error .malformed
    else
      match (c.skipWhile fun ch => ch == ' ' || ch == '\t').lineBreak with
      | (none, c) => .ok (found, c)
      | (some br, c) => quotedBreaks fuel (found ++ [br]) c

def quotedSpaces (c : Cursor) : Result ((List Char) × Cursor) :=
  let (spaces, c) := c.takeWhile fun ch => ch == ' ' || ch == '\t'
  if c.peek = none then .error .malformed
  else
    match c.lineBreak with
    | (none, c) => .ok (spaces, c)
    | (some br, c) => do
      let (breaks, c) ← quotedBreaks (c.left + 1) [] c
      return (fold br breaks, c)

def quotedUnit (double : Bool) (c : Cursor) : Result (Option (List Char × Cursor)) :=
  match c.rest with
  | [] => .ok none
  | ch :: rest =>
    if isSpacing (some ch) then .ok none
    else if ch == '\'' then
      if double then .ok (some ([ch], c.next))
      else if rest.head? = some '\'' then .ok (some ([ch], c.next.next))
      else .ok none
    else if ch == '\x22' then if double then .ok none else .ok (some ([ch], c.next))
    else if ch == '\\' && double then
      match rest with
      | [] => .error .malformed
      | e :: more =>
        match escapes.lookup e, codeLength e with
        | some image, _ => .ok (some ([image], c.advance 2))
        | none, some length => do
          return some ([← numbered length more], c.advance (2 + length))
        | none, none =>
          if isLineBreak e then do
            let (breaks, c) ← quotedBreaks (c.left + 1) [] c.next.lineBreak.2
            return some (breaks, c)
          else .error .malformed
    else .ok (some ([ch], c.next))

def quotedFrom (double : Bool) (text : List Char) (c : Cursor) : Result (String × Cursor) :=
  match quotedUnit double c with
  | .error e => .error e
  | .ok (some (cs, c')) =>
    if _h : c'.left < c.left then quotedFrom double (add text cs) c'
    else .error .malformed
  | .ok none =>
    if c.peek = some (if double then '\x22' else '\'') then .ok (String.ofList text.reverse, c.next)
    else
      match quotedSpaces c with
      | .error e => .error e
      | .ok (cs, c') =>
        if _h : c'.left < c.left then quotedFrom double (add text cs) c'
        else .error .malformed
termination_by c.left

def quoted (double : Bool) (c : Cursor) : Result (String × Cursor) := quotedFrom double [] c.next

inductive Chomping
  | strip
  | clip
  | keep
  deriving DecidableEq

def chomping? : Option Char → Option Chomping
  | some '+' => some .keep
  | some '-' => some .strip
  | _ => none

def increment? : Option Char → Option Nat
  | some c => if '0' ≤ c ∧ c ≤ '9' then some (c.toNat - '0'.toNat) else none
  | none => none

def blockHeader (c : Cursor) : Result ((Chomping × Option Nat) × Cursor) := do
  let (chomping, increment, c) :=
    match chomping? c.peek, increment? c.peek with
    | some chomping, _ =>
      match increment? c.next.peek with
      | some n => (chomping, some n, c.advance 2)
      | none => (chomping, none, c.next)
    | none, some n =>
      match chomping? c.next.peek with
      | some chomping => (chomping, some n, c.advance 2)
      | none => (.clip, some n, c.next)
    | none, none => (.clip, none, c)
  if increment = some 0 then throw .malformed
  if !endsWord c.peek then throw .malformed
  return ((chomping, increment), c)

def ignoredLine (c : Cursor) : Result Cursor :=
  let c := c.skipWhile (· == ' ')
  let c := if c.peek = some '#' then c.skipWhile (!isLineBreak ·) else c
  if endsLine c.peek then .ok c.lineBreak.2 else .error .malformed

def blockIndentation (fuel : Nat) (breaks : List Char) (widest : Nat) (c : Cursor) :
    (List Char × Nat) × Cursor :=
  match fuel with
  | 0 => ((breaks, widest), c)
  | fuel + 1 =>
    match c.peek with
    | some ' ' => blockIndentation fuel breaks (max widest c.next.column) c.next
    | some ch =>
      if isLineBreak ch then
        let (br, c) := c.lineBreak
        blockIndentation fuel (breaks ++ br.toList) widest c
      else ((breaks, widest), c)
    | none => ((breaks, widest), c)

def skipIndent (indent : Int) (fuel : Nat) (c : Cursor) : Cursor :=
  match fuel with
  | 0 => c
  | fuel + 1 =>
    if (c.column : Int) < indent && c.peek = some ' ' then skipIndent indent fuel c.next else c

def blockBreaks (indent : Int) (fuel : Nat) (found : List Char) (c : Cursor) :
    List Char × Cursor :=
  match fuel with
  | 0 => (found, c)
  | fuel + 1 =>
    let c := skipIndent indent c.left c
    match c.lineBreak with
    | (none, c) => (found, c)
    | (some br, c) => blockBreaks indent fuel (found ++ [br]) c

def atBlockLine (indent : Int) (c : Cursor) : Bool := (c.column : Int) == indent && c.peek.isSome

def startsBlank (c : Cursor) : Bool := c.peek == some ' ' || c.peek == some '\t'

def blockLines (folded : Bool) (indent : Int) (text breaks : List Char) (c : Cursor) :
    (List Char × Option Char × List Char) × Cursor :=
  let (line, c') := c.takeWhile (!isLineBreak ·)
  let (br, c') := c'.lineBreak
  let text := add (add text breaks) line
  let (breaks, c') := blockBreaks indent (c'.left + 1) [] c'
  if atBlockLine indent c' then
    let joint :=
      if folded && br == some '\n' && !startsBlank c && !startsBlank c' then
        if breaks.isEmpty then [' '] else []
      else br.toList
    if _h : c'.left < c.left then
      blockLines folded indent (add text joint) breaks c'
    else ((text, br, breaks), c')
  else ((text, br, breaks), c')
termination_by c.left

def block (folded : Bool) (indent : Int) (c : Cursor) : Result (String × Cursor) := do
  let ((chomping, increment), c) ← blockHeader c.next
  let c ← ignoredLine c
  let least := max (indent + 1) 1
  let (breaks, indent, c) : List Char × Int × Cursor :=
    match increment with
    | none =>
      let ((breaks, widest), c) := blockIndentation c.left [] 0 c
      (breaks, max least widest, c)
    | some n =>
      let indent := least + n - 1
      let (breaks, c) := blockBreaks indent (c.left + 1) [] c
      (breaks, indent, c)
  let ((text, br, breaks), c) :=
    if atBlockLine indent c then blockLines folded indent [] breaks c else (([], none, breaks), c)
  let tail :=
    match chomping with
    | .strip => []
    | .clip => br.toList
    | .keep => br.toList ++ breaks
  return (String.ofList (add text tail).reverse, c)

end TypedClient.Token
