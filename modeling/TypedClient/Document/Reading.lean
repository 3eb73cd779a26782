import TypedClient.Document.Node.Content
import TypedClient.Document.Token.Lexer

/-!
The value of a document, from its tokens. An alias stands for what its anchor names, also inside
that node itself. Every step leaves fewer tokens than it is given.
-/

namespace TypedClient

namespace Node

structure Known where
  nodes : Nodes
  anchors : List (String × Nat)

abbrev Handles := List (String × String)

structure Parsed (α : Type) (bound : Nat) where
  result : α
  known : Known
  rest : List Token
  length_lt : rest.length < bound

abbrev Build := Except DocumentError

structure Properties where
  anchor : Option String
  tag : Option (Option String × String)

def properties : List Token → Properties × List Token
  | .anchor a :: .tag h s :: rest => (⟨some a, some (h, s)⟩, rest)
  | .tag h s :: .anchor a :: rest => (⟨some a, some (h, s)⟩, rest)
  | .anchor a :: rest => (⟨some a, none⟩, rest)
  | .tag h s :: rest => (⟨none, some (h, s)⟩, rest)
  | rest => (⟨none, none⟩, rest)

def Properties.isEmpty (p : Properties) : Bool := p.anchor.isNone && p.tag.isNone

def Properties.isComplete (p : Properties) : Bool := p.anchor.isSome && p.tag.isSome

def readable : List Token → Build Unit
  | .fault cause :: _ => .error cause
  | _ => .ok ()

def tagName (handles : Handles) : Option (Option String × String) → Build (Option String)
  | none => .ok none
  | some (none, rest) => .ok (some rest)
  | some (some handle, rest) =>
    match handles.lookup handle with
    | some start => .ok (some (start ++ rest))
    | none => .error .malformed

/-- An exclamation mark alone leaves the node to its form. -/
def nodeTag (name : Option String) (standard : Tag) : Tag :=
  match name with
  | none => standard
  | some name => if name = "!" then standard else .ofName name

def ofScalar (tag : Option String) (isPlain : Bool) (text : String) : Node :=
  let isJudged := isPlain || tag == some "!"
  scalar (nodeTag tag (if isJudged then .ofForm text else .scalar .text)) text

def startsWith (tokens : List Token) (ts : List Token) : Bool :=
  match ts with
  | [] => false
  | t :: _ => tokens.contains t

theorem length_properties_le (ts : List Token) :
    (properties ts).2.length + (!(properties ts).1.isEmpty).toNat ≤ ts.length := by
  unfold properties
  split <;> simp [Properties.isEmpty]

namespace Known

def start : Known := ⟨#[], []⟩

def next (known : Known) : Nat := known.nodes.size

def add (known : Known) (node : Node) : Known := { known with nodes := known.nodes.push node }

def beginNode (known : Known) (anchor : Option String) : Known :=
  let anchors := (anchor.map (·, known.next)).toList ++ known.anchors
  { nodes := known.nodes.push absent, anchors }

def setNode (known : Known) (number : Nat) (node : Node) : Known :=
  { known with nodes := known.nodes.setIfInBounds number node }

end Known

def empty (hasProperties : Bool) (tag : Option String) (known : Known) (ts : List Token) :
    Build (Parsed Node (ts.length + hasProperties.toNat)) :=
  if h : hasProperties then .ok ⟨ofScalar tag true "", known, ts, by simp [h]⟩
  else .error .malformed

def nextItem (first : Bool) (ts : List Token) : List Token := if first then ts else ts.tail

theorem length_nextItem_le (first : Bool) (ts : List Token) :
    (nextItem first ts).length ≤ ts.length := by
  cases first <;> simp [nextItem]

theorem length_le_of_nextItem {first : Bool} {ts rest : List Token}
    (e : nextItem first ts = rest) : rest.length ≤ ts.length :=
  e ▸ length_nextItem_le first ts

theorem length_lt_of_nextItem {first : Bool} {ts rest : List Token} {t : Token}
    (e : nextItem first ts = t :: rest) : rest.length < ts.length :=
  length_le_of_nextItem e

theorem length_tail_lt {ts : List Token} {bound : Nat} (h : ts.length < bound) :
    ts.tail.length < bound := by
  rw [List.length_tail]
  omega

mutual

def build (handles : Handles) (inBlock indentless : Bool) (known : Known) (ts : List Token) :
    Build (Parsed Nat ts.length) :=
  match ts with
  | .alias' name :: rest =>
    match known.anchors.lookup name with
    | some number => .ok ⟨number, known, rest, by simp⟩
    | none => .error .malformed
  | ts => do
    let p := properties ts
    if !p.1.isComplete then readable p.2
    let tag ← tagName handles p.1.tag
    readable p.2
    if (p.1.anchor.map fun name => known.anchors.any (·.1 == name)).getD false then
      throw .malformed
    let number := known.next
    let ⟨node, known, rest, h⟩ ←
      content handles inBlock indentless tag (!p.1.isEmpty) (known.beginNode p.1.anchor) p.2
    return ⟨number, known.setNode number node, rest,
      Nat.lt_of_lt_of_le h (length_properties_le ts)⟩
termination_by 8 * ts.length + 4
decreasing_by
  have := length_properties_le ts
  omega

def content (handles : Handles) (inBlock indentless : Bool) (tag : Option String)
    (hasProperties : Bool) (known : Known) (ts : List Token) :
    Build (Parsed Node (ts.length + hasProperties.toNat)) :=
  match ts with
  | .scalar isPlain text :: rest => .ok ⟨ofScalar tag isPlain text, known, rest, by simp; omega⟩
  | .flowList :: rest => do
    let ⟨items, known, rest, h⟩ ← flowItems handles true [] known _ rest (Nat.lt_succ_self _)
    return ⟨list (nodeTag tag (.collection .list)) items, known, rest, by simp; omega⟩
  | .flowMap :: rest => do
    let ⟨entries, known, rest, h⟩ ← flowEntries handles true [] known _ rest (Nat.lt_succ_self _)
    return ⟨map (nodeTag tag (.collection .map)) entries, known, rest, by simp; omega⟩
  | .blockList :: rest => do
    if !inBlock then throw .malformed
    let ⟨items, known, rest, h⟩ ← blockItems handles [] known _ rest (Nat.lt_succ_self _)
    return ⟨list (nodeTag tag (.collection .list)) items, known, rest, by simp; omega⟩
  | .blockMap :: rest => do
    if !inBlock then throw .malformed
    let ⟨entries, known, rest, h⟩ ← blockEntries handles [] known _ rest (Nat.lt_succ_self _)
    return ⟨map (nodeTag tag (.collection .map)) entries, known, rest, by simp; omega⟩
  | .blockEntry :: rest =>
    if indentless then do
      let ⟨items, known, rest, h⟩ ← indentlessItems handles [] known _ rest (Nat.lt_succ_self _)
      return ⟨list (nodeTag tag (.collection .list)) items, known, rest, by simp; omega⟩
    else empty hasProperties tag known (.blockEntry :: rest)
  | ts => empty hasProperties tag known ts
termination_by 8 * ts.length + 3
decreasing_by
  all_goals
    try simp only [List.length_cons] at *
    omega

def optional (handles : Handles) (inBlock indentless : Bool) (ends : List Token)
    (known : Known) (ts : List Token) : Build (Parsed Nat (ts.length + 1)) :=
  if startsWith ends ts then .ok ⟨known.next, known.add absent, ts, Nat.lt_succ_self _⟩
  else do
    let ⟨node, known, rest, h⟩ ← build handles inBlock indentless known ts
    return ⟨node, known, rest, Nat.lt_succ_of_lt h⟩
termination_by 8 * ts.length + 5
decreasing_by
  all_goals
    try simp only [List.length_cons] at *
    omega

def following (mark : Token) (handles : Handles) (inBlock : Bool) (ends : List Token)
    (known : Known) (ts : List Token) : Build (Parsed Nat (ts.length + 1)) :=
  match ts with
  | [] => .ok ⟨known.next, known.add absent, [], Nat.lt_succ_self _⟩
  | .fault cause :: _ => .error cause
  | t :: rest =>
    if t = mark then do
      let ⟨node, known, rest, h⟩ ← optional handles inBlock inBlock ends known rest
      return ⟨node, known, rest, Nat.lt_succ_of_lt h⟩
    else .ok ⟨known.next, known.add absent, t :: rest, Nat.lt_succ_self _⟩
termination_by 8 * ts.length + 6
decreasing_by
  all_goals
    try simp only [List.length_cons] at *
    omega

def blockItems (handles : Handles) (found : List Nat) (known : Known) (bound : Nat)
    (ts : List Token) (h : ts.length < bound) : Build (Parsed (List Nat) bound) :=
  match ts with
  | .blockEntry :: rest => do
    let ⟨item, known, rest', h'⟩ ←
      optional handles true false [.blockEntry, .blockEnd] known rest
    blockItems handles (item :: found) known bound rest' (by simp at h; omega)
  | .blockEnd :: rest => .ok ⟨found.reverse, known, rest, by simp at h; omega⟩
  | .fault cause :: _ => .error cause
  | _ => .error .malformed
termination_by 8 * ts.length + 7
decreasing_by
  all_goals
    try simp only [List.length_cons] at *
    omega

def indentlessItems (handles : Handles) (found : List Nat) (known : Known) (bound : Nat)
    (ts : List Token) (h : ts.length < bound) : Build (Parsed (List Nat) bound) := do
  let ⟨item, known, rest, h'⟩ ←
    optional handles true false [.blockEntry, .key, .value, .blockEnd] known ts
  match _e : rest with
  | .blockEntry :: rest' =>
    indentlessItems handles (item :: found) known bound rest' (by simp [_e] at h'; omega)
  | .fault cause :: _ => .error cause
  | rest' => return ⟨(item :: found).reverse, known, rest', by simp [_e] at h'; omega⟩
termination_by 8 * ts.length + 7
decreasing_by
  · omega
  · simp only [_e, List.length_cons] at h'
    omega

def blockEntries (handles : Handles) (found : List (Nat × Nat)) (known : Known) (bound : Nat)
    (ts : List Token) (h : ts.length < bound) : Build (Parsed (List (Nat × Nat)) bound) :=
  match ts with
  | .key :: rest => do
    let ends := [.key, .value, .blockEnd]
    let ⟨key, known, rest', h'⟩ ← optional handles true true ends known rest
    let ⟨value, known, rest'', h''⟩ ← following .value handles true ends known rest'
    blockEntries handles ((key, value) :: found) known bound rest'' (by simp at h; omega)
  | .blockEnd :: rest => .ok ⟨found.reverse, known, rest, by simp at h; omega⟩
  | .fault cause :: _ => .error cause
  | _ => .error .malformed
termination_by 8 * ts.length + 7
decreasing_by
  all_goals
    try simp only [List.length_cons] at *
    omega

def flowItems (handles : Handles) (first : Bool) (found : List Nat) (known : Known) (bound : Nat)
    (ts : List Token) (h : ts.length < bound) : Build (Parsed (List Nat) bound) := do
  readable ts
  if startsWith [.flowListEnd] ts then
    return ⟨found.reverse, known, ts.tail, length_tail_lt h⟩
  if !first && !startsWith [.flowEntry] ts then throw .malformed
  match _e : nextItem first ts with
  | .flowListEnd :: rest =>
    return ⟨found.reverse, known, rest, Nat.lt_trans (length_lt_of_nextItem _e) h⟩
  | .key :: rest =>
    let ⟨key, known, rest', h'⟩ ←
      optional handles false false [.value, .flowEntry, .flowListEnd] known rest
    let ⟨value, known, rest'', h''⟩ ←
      following .value handles false [.flowEntry, .flowListEnd] known rest'
    flowItems handles false (known.next :: found)
      (known.add (map (.collection .map) [(key, value)])) bound rest'' (by
        have := length_lt_of_nextItem _e
        omega)
  | rest =>
    let ⟨item, known, rest', h'⟩ ← build handles false false known rest
    flowItems handles false (item :: found) known bound rest' (by
      have := length_le_of_nextItem _e
      omega)
termination_by 8 * ts.length + 7
decreasing_by
  all_goals
    try have := length_lt_of_nextItem _e
    try have := length_le_of_nextItem _e
    omega

def flowEntries (handles : Handles) (first : Bool) (found : List (Nat × Nat)) (known : Known)
    (bound : Nat) (ts : List Token) (h : ts.length < bound) :
    Build (Parsed (List (Nat × Nat)) bound) := do
  readable ts
  if startsWith [.flowMapEnd] ts then
    return ⟨found.reverse, known, ts.tail, length_tail_lt h⟩
  if !first && !startsWith [.flowEntry] ts then throw .malformed
  match _e : nextItem first ts with
  | .flowMapEnd :: rest =>
    return ⟨found.reverse, known, rest, Nat.lt_trans (length_lt_of_nextItem _e) h⟩
  | .key :: rest =>
    let ⟨key, known, rest', h'⟩ ←
      optional handles false false [.value, .flowEntry, .flowMapEnd] known rest
    let ⟨value, known, rest'', h''⟩ ←
      following .value handles false [.flowEntry, .flowMapEnd] known rest'
    flowEntries handles false ((key, value) :: found) known bound rest'' (by
        have := length_lt_of_nextItem _e
        omega)
  | rest =>
    let ⟨key, known, rest', h'⟩ ← build handles false false known rest
    flowEntries handles false ((key, known.next) :: found) (known.add absent) bound rest' (by
      have := length_le_of_nextItem _e
      omega)
termination_by 8 * ts.length + 7
decreasing_by
  all_goals
    try have := length_lt_of_nextItem _e
    try have := length_le_of_nextItem _e
    omega

end

def defaultHandles : Handles := [("!", "!"), ("!!", Tag.core)]

def directives (versioned : Bool) (handles : Handles) : List Token → Build (Handles × List Token)
  | .directive (.version major _) :: rest =>
    if versioned || major != 1 then .error .malformed else directives true handles rest
  | .directive (.tag handle start) :: rest =>
    if handles.any (·.1 == handle) then .error .malformed
    else directives versioned ((handle, start) :: handles) rest
  | .directive .other :: rest => directives versioned handles rest
  | .fault cause :: _ => .error cause
  | ts => .ok (handles ++ defaultHandles, ts)

def isDirective : Token → Bool
  | .directive _ => true
  | _ => false

def ends (ts : List Token) : Build Unit :=
  match ts.dropWhile (· = .documentEnd) with
  | [.streamEnd] => .ok ()
  | rest => do
    readable (rest.dropWhile isDirective)
    throw .malformed

def valueOfTokens (ts : List Token) : Build Value := do
  let marks := [.documentStart, .documentEnd, .streamEnd]
  match ts with
  | [.streamEnd] => return .null
  | t :: _ =>
    if isDirective t || t = .documentStart then
      let (handles, rest) ← directives false [] ts
      match rest with
      | .documentStart :: rest =>
        if startsWith marks rest || (rest.head?.map isDirective).getD false then
          ends rest
          return .null
        let p ← build handles true false .start rest
        ends p.rest
        p.known.nodes.value p.result
      | _ => throw .malformed
    else
      let p ← build defaultHandles true false .start ts
      ends p.rest
      p.known.nodes.value p.result
  | [] => throw .malformed

end Node

def Value.ofText (s : String) : Except DocumentError Value := Node.valueOfTokens (Token.scan s)

end TypedClient
