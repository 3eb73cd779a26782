import TypedClient.Number.Numeral
import TypedClient.Target.Term
import TypedClient.Text.Identifier
import TypedClient.Text.LineEnd
import TypedClient.Text.Surrogate

namespace TypedClient.Target

inductive Lexeme
  | word (text : String)
  | value (literal : Literal)
  | mark (text : String)
  deriving BEq

namespace Lexeme

def digitIn? (base : Nat) (c : Char) : Option Nat :=
  if c.toNat < 0x80 then Numeral.digitIn? base c else none

def digits (base : Nat) : List Char → List Nat × List Char
  | [] => ([], [])
  | c :: rest =>
    match digitIn? base c with
    | some d => let (ds, rest) := digits base rest; (d :: ds, rest)
    | none =>
      match c, rest with
      | '_', d :: after =>
        match digitIn? base d with
        | some d => let (ds, rest) := digits base after; (d :: ds, rest)
        | none => ([], c :: rest)
      | _, _ => ([], c :: rest)

def startsWithDigit (cs : List Char) : Bool := (cs.head?.bind (digitIn? 10)).isSome

def baseOf? : Char → Option Nat
  | 'b' => some 2
  | 'o' => some 8
  | 'x' => some 16
  | _ => none

def places : List Char → Option (List Nat) × List Char
  | '.' :: rest =>
    if startsWithDigit rest then let (ds, rest) := digits 10 rest; (some ds, rest)
    else (some [], rest)
  | cs => (none, cs)

def exponent (cs : List Char) : Option Int × List Char :=
  match cs with
  | e :: rest =>
    let (negative, after) :=
      match rest with
      | '-' :: after => (true, after)
      | '+' :: after => (false, after)
      | after => (false, after)
    if e.toLower = 'e' ∧ startsWithDigit after then
      let (ds, rest) := digits 10 after
      let n : Int := Text.ofDigits 10 ds
      (some (if negative then -n else n), rest)
    else (none, cs)
  | [] => (none, [])

def decimal (cs : List Char) : Option (Literal × List Char) :=
  let (whole, rest) := digits 10 cs
  let (places, rest) := places rest
  let (exponent, rest) := exponent rest
  let ds := whole ++ places.getD []
  let magnitude := Binary64.ofDecimal (Text.ofDigits 10 ds)
    (exponent.getD 0 - ((places.getD []).length : Nat))
  match rest with
  | 'j' :: rest => some (.imaginary magnitude, rest)
  | 'J' :: rest => some (.imaginary magnitude, rest)
  | rest =>
    if places.isSome || exponent.isSome then some (.float magnitude, rest)
    else if (whole.head? == some 0 && whole.any (· != 0)) || Text.maxDigits < whole.length then none
    else some (.int (Text.ofDigits 10 whole), rest)

def wordsAfterNumbers : List String := ["and", "else", "for", "if", "in", "is", "or", "not"]

def isWordChar (c : Char) : Bool := c.isAlphanum || c == '_' || 0x80 ≤ c.toNat

def mayFollowNumber (cs : List Char) : Bool :=
  !(cs.head?.map isWordChar).getD false || wordsAfterNumbers.any (·.toList.isPrefixOf cs)

def number (cs : List Char) : Option (Literal × List Char) :=
  let based : Option (Option (Literal × List Char)) :=
    match cs with
    | '0' :: letter :: rest =>
      (baseOf? letter.toLower).map fun base =>
        let (ds, rest) := digits base rest
        if ds.isEmpty then none else some (.int (Text.ofDigits base ds), rest)
    | _ => none
  (based.getD (decimal cs)).filter fun (_, rest) => mayFollowNumber rest

structure TextForm where
  isBytes : Bool
  isRaw : Bool
  hasHoles : Bool

def textForm? (letters : List Char) : Option TextForm :=
  match String.ofList (letters.map Char.toLower) with
  | "" => some ⟨false, false, false⟩
  | "u" => some ⟨false, false, false⟩
  | "r" => some ⟨false, true, false⟩
  | "b" => some ⟨true, false, false⟩
  | "f" => some ⟨false, false, true⟩
  | "br" => some ⟨true, true, false⟩
  | "rb" => some ⟨true, true, false⟩
  | "fr" => some ⟨false, true, true⟩
  | "rf" => some ⟨false, true, true⟩
  | _ => none

def untilQuote (quote : List Char) : List Char → Option (List Char × List Char)
  | [] => none
  | '\\' :: c :: rest => (untilQuote quote rest).map fun (body, rest) => ('\\' :: c :: body, rest)
  | c :: rest =>
    if quote.isPrefixOf (c :: rest) then some ([], (c :: rest).drop quote.length)
    else if c = '\n' ∧ quote.length = 1 then none
    else (untilQuote quote rest).map fun (body, rest) => (c :: body, rest)

def escapes : List (Char × Char) :=
  [('\\', '\\'), ('\'', '\''), ('\x22', '\x22'), ('a', '\x07'), ('b', '\x08'), ('f', '\x0c'),
   ('n', '\n'), ('r', '\r'), ('t', '\t'), ('v', '\x0b')]

def codeLength? (isBytes : Bool) : Char → Option Nat
  | 'x' => some 2
  | 'u' => if isBytes then none else some 4
  | 'U' => if isBytes then none else some 8
  | _ => none

def escape (isBytes : Bool) (c : Char) (rest : List Char) : Option (List Char × List Char) :=
  match escapes.lookup c, codeLength? isBytes c with
  | some image, _ => some ([image], rest)
  | none, some length => do
    let ds ← (rest.take length).mapM (digitIn? 16)
    let code := Text.ofDigits 16 ds
    guard (ds.length == length && decide (code < 0x110000))
    some ([Text.ofCodePoint code], rest.drop length)
  | none, none =>
    let octal := ((c :: rest).take 3).takeWhile fun c => (digitIn? 8 c).isSome
    if c = '\n' then some ([], rest)
    else if !octal.isEmpty then
      let code := Text.ofDigits 8 (octal.filterMap (digitIn? 8))
      some ([Char.ofNat (if isBytes then code % 256 else code)], (c :: rest).drop octal.length)
    else if c = 'N' ∧ !isBytes then none
    else some (['\\', c], rest)

/-- Every escape takes at least the character after its backslash, so as many steps suffice as
there are characters. -/
def unescape (isBytes : Bool) : Nat → List Char → Option (List Char)
  | 0, _ => some []
  | _ + 1, [] => some []
  | n + 1, '\\' :: c :: rest => do
    let (image, rest) ← escape isBytes c rest
    return image ++ (← unescape isBytes n rest)
  | n + 1, c :: rest => do return c :: (← unescape isBytes n rest)

def textValue (form : TextForm) (body : List Char) : Option Literal := do
  guard !(form.hasHoles && (body.contains '{' || body.contains '}'))
  guard !(form.isBytes && body.any (0x80 ≤ ·.toNat))
  let image ← if form.isRaw then some body else unescape form.isBytes body.length body
  if form.isBytes then some (.bytes (image.map fun c => UInt8.ofNat c.toNat))
  else some (.text (String.ofList image))

def quotedText (form : TextForm) (quote : Char) (rest : List Char) :
    Option (Literal × List Char) := do
  let (quotes, rest) :=
    match rest with
    | q :: q' :: after =>
      if q = quote ∧ q' = quote then ([quote, quote, quote], after) else ([quote], rest)
    | _ => ([quote], rest)
  let (body, rest) ← untilQuote quotes rest
  return (← textValue form body, rest)

def marks : List String :=
  ["**=", "//=", "<<=", ">>=", "...", "**", "//", "<<", ">>", "<=", ">=", "==", "!=", "->", ":=",
   "+=", "-=", "*=", "/=", "%=", "&=", "|=", "^=", "@=", "(", ")", "[", "]", ",", ":", ".", ";",
   "@", "=", "+", "-", "*", "/", "%", "&", "|", "^", "~", "<", ">"] ++ ["\x7b", "\x7d"]

def mark? (cs : List Char) : Option (Lexeme × List Char) :=
  (marks.find? fun m => m.toList.isPrefixOf cs).map fun m => (mark m, cs.drop m.length)

def wordOrText (cs : List Char) : Option (Lexeme × List Char) :=
  let letters := cs.takeWhile isWordChar
  let read : Option (Lexeme × List Char) :=
    if Text.isIdentifierChars letters then
      some (word (String.ofList letters), cs.dropWhile isWordChar)
    else none
  match cs.dropWhile isWordChar, textForm? letters with
  | q :: rest, some form =>
    if q = '\'' ∨ q = '\x22' then (quotedText form q rest).map fun (v, rest) => (value v, rest)
    else read
  | _, _ => read

def first? (cs : List Char) : Option (Lexeme × List Char) :=
  match cs with
  | [] => none
  | c :: rest =>
    if startsWithDigit cs || (c = '.' && startsWithDigit rest) then
      (number cs).map fun (v, rest) => (value v, rest)
    else if isWordChar c || c = '\'' || c = '\x22' then wordOrText cs
    else mark? cs

def depthAfter (depth : Nat) : Lexeme → Nat
  | mark m =>
    if m = "(" ∨ m = "[" ∨ m = "\x7b" then depth + 1
    else if m = ")" ∨ m = "]" ∨ m = "\x7d" then depth - 1
    else depth
  | _ => depth

def isSpace (c : Char) : Bool := c == ' ' || c == '\t' || c == '\x0c'

def allFrom : Nat → Nat → List Char → Option (List Lexeme)
  | 0, _, _ => some []
  | _ + 1, _, [] => some []
  | n + 1, depth, c :: rest =>
    if isSpace c then allFrom n depth rest
    else if c = '\n' then if depth = 0 then none else allFrom n depth rest
    else if c = '\\' then if rest.head? = some '\n' then allFrom n depth (rest.drop 1) else none
    else if c = '#' then
      let rest := rest.dropWhile (· ≠ '\n')
      if depth = 0 ∨ rest.isEmpty then none else allFrom n depth rest
    else
      match first? (c :: rest) with
      | none => none
      | some (l, rest) => (allFrom n (l.depthAfter depth) rest).map (l :: ·)

def all (depth : Nat) (s : String) : Option (List Lexeme) :=
  allFrom s.length depth (Text.unifyLineEnds s.toList)

end Lexeme

end TypedClient.Target
