import TypedClient.Document.Token.Scalar
import TypedClient.Text.Digits
import TypedClient.Text.Utf8

/-!
The tokens of a document. A simple key shows only at its colon: the place of what may turn out to
be a key is remembered, and the key is put there when the colon comes.
-/

namespace TypedClient.Token

structure SimpleKey where
  position : Nat
  required : Bool
  left : Nat
  line : Nat
  column : Nat

/-- `tokens` are those found so far, the last one first. `keys` has at most one possible key for
each flow level. -/
structure Lexer where
  cursor : Cursor
  tokens : List Token
  count : Nat
  flowLevel : Nat
  indent : Int
  indents : List Int
  keyAllowed : Bool
  keys : List (Nat × SimpleKey)

abbrev Step := Result Lexer

namespace Lexer

def start (s : String) : Lexer :=
  let c := Cursor.ofText s
  { cursor := if c.peek = some byteOrderMark then c.next else c
    tokens := []
    count := 0
    flowLevel := 0
    indent := -1
    indents := []
    keyAllowed := true
    keys := [] }

def emit (t : Token) (l : Lexer) : Lexer := { l with tokens := t :: l.tokens, count := l.count + 1 }

def insertAt (position : Nat) (t : Token) (l : Lexer) : Lexer :=
  let after := l.count - position
  { l with tokens := l.tokens.take after ++ t :: l.tokens.drop after, count := l.count + 1 }

def inFlow (l : Lexer) : Bool := l.flowLevel != 0

def skipBlank (fuel : Nat) (l : Lexer) : Lexer :=
  match fuel with
  | 0 => l
  | fuel + 1 =>
    let c := l.cursor.skipWhile (· == ' ')
    let c := if c.peek = some '#' then c.skipWhile (!isLineBreak ·) else c
    match c.lineBreak with
    | (none, c) => { l with cursor := c }
    | (some _, c) =>
      skipBlank fuel { l with cursor := c, keyAllowed := l.keyAllowed || !l.inFlow }

/-- A key ends on the line it starts on and within 1024 characters. -/
def isStale (l : Lexer) (key : SimpleKey) : Bool :=
  key.line != l.cursor.line || 1024 < key.left - l.cursor.left

def dropStale (l : Lexer) : Step :=
  if l.keys.any fun (_, k) => l.isStale k && k.required then .error .malformed
  else .ok { l with keys := l.keys.filter fun (_, k) => !l.isStale k }

def removeKey (l : Lexer) : Step :=
  match l.keys.lookup l.flowLevel with
  | some k =>
    if k.required then .error .malformed
    else .ok { l with keys := l.keys.filter (·.1 != l.flowLevel) }
  | none => .ok l

def saveKey (l : Lexer) : Step :=
  if l.keyAllowed then do
    let l ← l.removeKey
    let required := !l.inFlow && l.indent == (l.cursor.column : Int)
    let k : SimpleKey := ⟨l.count, required, l.cursor.left, l.cursor.line, l.cursor.column⟩
    return { l with keys := (l.flowLevel, k) :: l.keys }
  else .ok l

def closeBlocks (column : Int) (indents : List Int) (l : Lexer) : Lexer :=
  match indents with
  | [] => l
  | outer :: rest =>
    if column < l.indent then
      closeBlocks column rest (emit .blockEnd { l with indent := outer, indents := rest })
    else l

def unwind (column : Int) (l : Lexer) : Lexer :=
  if l.inFlow then l else closeBlocks column l.indents l

def opensBlock (column : Int) (l : Lexer) : Bool := l.indent < column

def pushIndent (column : Int) (l : Lexer) : Lexer :=
  { l with indents := l.indent :: l.indents, indent := column }

def column (l : Lexer) : Int := l.cursor.column

def blockIndicator (opening : Token) (l : Lexer) : Step :=
  if l.inFlow then .ok l
  else if !l.keyAllowed then .error .malformed
  else if l.opensBlock l.column then .ok (emit opening (l.pushIndent l.column))
  else .ok l

def takeChars (n : Nat) (t : Token) (l : Lexer) : Lexer :=
  emit t { l with cursor := l.cursor.advance n }

def documentMark (t : Token) (l : Lexer) : Step := do
  let l ← (l.unwind (-1)).removeKey
  return takeChars 3 t { l with keyAllowed := false }

def openFlow (t : Token) (l : Lexer) : Step := do
  let l ← l.saveKey
  return takeChars 1 t { l with flowLevel := l.flowLevel + 1, keyAllowed := true }

def closeFlow (t : Token) (l : Lexer) : Step := do
  let l ← l.removeKey
  return takeChars 1 t { l with flowLevel := l.flowLevel - 1, keyAllowed := false }

def flowEntry (l : Lexer) : Step := do
  let l ← l.removeKey
  return takeChars 1 .flowEntry { l with keyAllowed := true }

def blockEntry (l : Lexer) : Step := do
  let l ← l.blockIndicator .blockList
  let l ← removeKey { l with keyAllowed := true }
  return takeChars 1 .blockEntry l

def explicitKey (l : Lexer) : Step := do
  let l ← l.blockIndicator .blockMap
  let l ← removeKey { l with keyAllowed := !l.inFlow }
  return takeChars 1 .key l

/-- A colon after a possible key makes it a key, otherwise it stands for itself. -/
def value (l : Lexer) : Step :=
  match l.keys.lookup l.flowLevel with
  | some k =>
    let l := { l with keys := l.keys.filter (·.1 != l.flowLevel) }
    let l := l.insertAt k.position .key
    let l :=
      if !l.inFlow && l.opensBlock k.column then
        (l.pushIndent k.column).insertAt k.position .blockMap
      else l
    .ok (takeChars 1 .value { l with keyAllowed := false })
  | none => do
    let l ← l.blockIndicator .blockMap
    let l ← removeKey { l with keyAllowed := !l.inFlow }
    return takeChars 1 .value l

def isWordChar (c : Char) : Bool := c.isAlphanum || c == '-' || c == '_'

def name (c : Cursor) : Result (String × Cursor) :=
  let (cs, c) := c.next.takeWhile isWordChar
  let ends := isSpacing c.peek
    || (c.peek.map ['?', ':', ',', ']', '}', '%', '@', '\x60'].contains).getD false
  if cs.isEmpty || !ends then .error .malformed else .ok (String.ofList cs, c)

def named (t : String → Token) (l : Lexer) : Step := do
  let l ← l.saveKey
  let (s, c) ← name l.cursor
  return emit (t s) { l with cursor := c, keyAllowed := false }

def isUriChar (c : Char) : Bool :=
  c.isAlphanum || ("-;/?:@&=+$,_.!~*'()[]".toList.contains c)

def uriFrom (fuel : Nat) (found : List Char) (bytes : List UInt8) (c : Cursor) :
    Result ((List Char) × Cursor) := do
  let flushed := (Text.decode bytes).toOption.map fun s => found ++ s.toList
  match fuel, c.peek with
  | fuel + 1, some '%' =>
    match hexCode 2 c.next.rest with
    | some b => uriFrom fuel found (bytes ++ [b.toUInt8]) (c.advance 3)
    | none => throw .malformed
  | fuel + 1, some ch =>
    match flushed with
    | none => throw .malformed
    | some found =>
      if isUriChar ch then uriFrom fuel (found ++ [ch]) [] c.next else return (found, c)
  | _, _ =>
    match flushed with
    | none => throw .malformed
    | some found => return (found, c)

def uri (c : Cursor) : Result (String × Cursor) := do
  let (cs, c) ← uriFrom (c.left + 1) [] [] c
  if cs.isEmpty then throw .malformed
  return (String.ofList cs, c)

def tagHandle (c : Cursor) : Result (String × Cursor) :=
  if c.peek ≠ some '!' then .error .malformed
  else if c.next.peek = some ' ' then .ok ("!", c.next)
  else
    let (cs, c) := c.next.takeWhile isWordChar
    if c.peek = some '!' then .ok (String.ofList ('!' :: cs ++ ['!']), c.next)
    else .error .malformed

def hasHandle (c : Cursor) : Bool :=
  (c.next.rest.takeWhile fun ch => !endsWord (some ch)).contains '!'

def tagParts (c : Cursor) : Result ((Option String × String) × Cursor) :=
  match c.peekAt 1 with
  | some '<' => do
    let (rest, c) ← uri (c.advance 2)
    if c.peek ≠ some '>' then throw .malformed
    return ((none, rest), c.next)
  | second =>
    if isSpacing second then .ok ((none, "!"), c.next)
    else do
      let (handle, c) ← if hasHandle c then tagHandle c else .ok ("!", c.next)
      let (rest, c) ← uri c
      return ((some handle, rest), c)

def tag (l : Lexer) : Step := do
  let l ← l.saveKey
  let ((handle, rest), c) ← tagParts l.cursor
  if !endsWord c.peek then throw .malformed
  return emit (.tag handle rest) { l with cursor := c, keyAllowed := false }

def number (c : Cursor) : Result (Nat × Cursor) :=
  let (cs, c) := c.takeWhile Char.isDigit
  if cs.isEmpty then .error .malformed
  else if Text.maxDigits < cs.length then .error (.longInteger cs.length)
  else .ok (cs.foldl (fun n ch => n * 10 + (ch.toNat - '0'.toNat)) 0, c)

def skipSpaces (c : Cursor) : Cursor := c.skipWhile (· == ' ')

def directiveValue (word : List Char) (c : Cursor) : Result (Directive × Cursor) :=
  if word = ['Y', 'A', 'M', 'L'] then do
    let (major, c) ← number (skipSpaces c)
    if c.peek ≠ some '.' then throw .malformed
    let (minor, c) ← number c.next
    if !endsWord c.peek then throw .malformed
    return (.version major minor, c)
  else if word = ['T', 'A', 'G'] then do
    let (handle, c) ← tagHandle (skipSpaces c)
    if c.peek ≠ some ' ' then throw .malformed
    let (start, c) ← uri (skipSpaces c)
    if !endsWord c.peek then throw .malformed
    return (.tag handle start, c)
  else .ok (.other, c.skipWhile (!isLineBreak ·))

def directive (l : Lexer) : Step := do
  let l ← (l.unwind (-1)).removeKey
  let (word, c) := l.cursor.next.takeWhile isWordChar
  if word.isEmpty || !endsWord c.peek then throw .malformed
  let (d, c) ← directiveValue word c
  let c ← ignoredLine c
  return emit (.directive d) { l with cursor := c, keyAllowed := false }

def blockScalar (folded : Bool) (l : Lexer) : Step := do
  let l ← removeKey { l with keyAllowed := true }
  let (text, c) ← block folded l.indent l.cursor
  return emit (.scalar false text) { l with cursor := c }

def quotedScalar (double : Bool) (l : Lexer) : Step := do
  let l ← l.saveKey
  let (text, c) ← quoted double l.cursor
  return emit (.scalar false text) { l with cursor := c, keyAllowed := false }

def plainScalar (l : Lexer) : Step := do
  let l ← l.saveKey
  let ((text, broken), c) := plain l.inFlow l.indent l.cursor
  return emit (.scalar true text) { l with cursor := c, keyAllowed := broken }

def indicators : List Char := "-?:,[]\x7b\x7d#&*!|>'\x22%@\x60".toList

def startsPlain (l : Lexer) (c : Char) : Bool :=
  (!isSpacing (some c) && !indicators.contains c)
    || (!isSpacing (l.cursor.peekAt 1) && (c == '-' || (!l.inFlow && (c == '?' || c == ':'))))

def standsAlone (l : Lexer) : Bool := isSpacing (l.cursor.peekAt 1)

def fetch (c : Char) (l : Lexer) : Step :=
  if c == '%' && l.cursor.column == 0 then l.directive
  else if l.cursor.column == 0 && startsDocumentMark ['-', '-', '-'] l.cursor then
    l.documentMark .documentStart
  else if l.cursor.column == 0 && startsDocumentMark ['.', '.', '.'] l.cursor then
    l.documentMark .documentEnd
  else if c == '[' then l.openFlow .flowList
  else if c == '{' then l.openFlow .flowMap
  else if c == ']' then l.closeFlow .flowListEnd
  else if c == '}' then l.closeFlow .flowMapEnd
  else if c == ',' then l.flowEntry
  else if c == '-' && l.standsAlone then l.blockEntry
  else if c == '?' && (l.inFlow || l.standsAlone) then l.explicitKey
  else if c == ':' && (l.inFlow || l.standsAlone) then l.value
  else if c == '*' then l.named .alias'
  else if c == '&' then l.named .anchor
  else if c == '!' then l.tag
  else if c == '|' && !l.inFlow then l.blockScalar false
  else if c == '>' && !l.inFlow then l.blockScalar true
  else if c == '\'' then l.quotedScalar false
  else if c == '\x22' then l.quotedScalar true
  else if l.startsPlain c then l.plainScalar
  else .error .malformed

/-- The tokens before the first that may yet become a key: only these are certain. -/
def certain (l : Lexer) : List Token :=
  let open' := (l.keys.filter fun (_, k) => !l.isStale k).map (·.2.position)
  l.tokens.reverse.take (open'.foldl min l.count)

def finish (l : Lexer) : Result (List Token) := do
  let l ← (l.unwind (-1)).removeKey
  return (emit .streamEnd l).tokens.reverse

def ready (l : Lexer) : Step := do
  let l ← (l.skipBlank (l.cursor.left + 1)).dropStale
  return l.unwind l.column

/-- The tokens from here on, and those found before; where the text cannot be read on, a fault
follows those that are certain. -/
def run (l : Lexer) : List Token :=
  match l.ready with
  | .error cause => l.certain ++ [.fault cause]
  | .ok ready =>
    match ready.cursor.peek with
    | none =>
      match ready.finish with
      | .error cause => l.certain ++ [.fault cause]
      | .ok tokens => tokens
    | some c =>
      match ready.fetch c with
      | .error cause => l.certain ++ [.fault cause]
      | .ok next =>
        if _h : next.cursor.left < l.cursor.left then next.run
        else l.certain ++ [.fault .malformed]
termination_by l.cursor.left

end Lexer

def isDocumentChar (c : Char) : Bool :=
  let n := c.toNat
  n == 0x9 || n == 0xa || n == 0xd || (0x20 ≤ n && n ≤ 0x7e) || n == 0x85
    || (0xa0 ≤ n && n ≤ 0xd7ff) || (0xe000 ≤ n && n ≤ 0xfffd) || 0x10000 ≤ n

def scan (s : String) : List Token :=
  if s.toList.all isDocumentChar then (Lexer.start s).run else [.fault .malformed]

end TypedClient.Token
