namespace TypedClient

structure Cursor where
  rest : List Char
  left : Nat
  line : Nat
  column : Nat

def byteOrderMark : Char := '\ufeff'

def isLineBreak (c : Char) : Bool :=
  c == '\n' || c == '\r' || c == '\x85' || c == '\u2028' || c == '\u2029'

namespace Cursor

def ofText (s : String) : Cursor := ⟨s.toList, s.length, 0, 0⟩

def peek (c : Cursor) : Option Char := c.rest.head?

def peekAt (c : Cursor) (n : Nat) : Option Char := (c.rest.drop n).head?

/-- A carriage return before a line feed ends no line of its own, and a byte order mark takes no
column. -/
def next (c : Cursor) : Cursor :=
  match c.rest with
  | [] => c
  | ch :: rest =>
    if isLineBreak ch && !(ch == '\r' && rest.head? == some '\n') then
      ⟨rest, c.left - 1, c.line + 1, 0⟩
    else if ch == byteOrderMark then ⟨rest, c.left - 1, c.line, c.column⟩
    else ⟨rest, c.left - 1, c.line, c.column + 1⟩

def advance : Nat → Cursor → Cursor
  | 0, c => c
  | n + 1, c => advance n c.next

def skipWhile (p : Char → Bool) (c : Cursor) : Cursor := advance (c.rest.takeWhile p).length c

def takeWhile (p : Char → Bool) (c : Cursor) : List Char × Cursor :=
  (c.rest.takeWhile p, c.skipWhile p)

def lineBreak (c : Cursor) : Option Char × Cursor :=
  match c.rest with
  | '\r' :: '\n' :: _ => (some '\n', c.next.next)
  | ch :: _ =>
    if ch == '\r' || ch == '\n' || ch == '\x85' then (some '\n', c.next)
    else if ch == '\u2028' || ch == '\u2029' then (some ch, c.next)
    else (none, c)
  | [] => (none, c)

end Cursor

def endsLine : Option Char → Bool
  | none => true
  | some c => isLineBreak c

def endsWord : Option Char → Bool
  | none => true
  | some c => c == ' ' || isLineBreak c

def isSpacing : Option Char → Bool
  | none => true
  | some c => c == ' ' || c == '\t' || isLineBreak c

def startsDocumentMark (mark : List Char) (c : Cursor) : Bool :=
  mark.isPrefixOf c.rest && isSpacing (c.peekAt 3)

def atDocumentMark (c : Cursor) : Bool :=
  startsDocumentMark ['-', '-', '-'] c || startsDocumentMark ['.', '.', '.'] c

end TypedClient
