import TypedClient.Text.Printable
import TypedClient.Text.Split
import TypedClient.Text.Surrogate

namespace TypedClient.Text

def hexDigits (width n : Nat) : List Char :=
  let digits := Nat.toDigits 16 n
  List.replicate (width - digits.length) '0' ++ digits

def escapeCode (c : Char) : List Char :=
  let n := codePoint c
  if n < 0x100 then '\\' :: 'x' :: hexDigits 2 n
  else if n < 0x10000 then '\\' :: 'u' :: hexDigits 4 n
  else '\\' :: 'U' :: hexDigits 8 n

def escapeChar (c : Char) : List Char :=
  if c = '\\' then ['\\', '\\']
  else if c = '\n' then ['\\', 'n']
  else if c = '\r' then ['\\', 'r']
  else if c = '\t' then ['\\', 't']
  else if isPrintable c then [c]
  else escapeCode c

def singleQuote : Char := '\''

def doubleQuote : Char := '\x22'

def plainQuote (cs : List Char) : Char :=
  if cs.contains singleQuote && !cs.contains doubleQuote then doubleQuote else singleQuote

def quotedBody (cs : List Char) : List Char :=
  cs.flatMap fun c => if c = plainQuote cs then ['\\', c] else escapeChar c

def quotedChars (cs : List Char) : List Char := plainQuote cs :: quotedBody cs ++ [plainQuote cs]

def quoted (s : String) : String := String.ofList (quotedChars s.toList)

def quotedBytes (bytes : List UInt8) : String :=
  let cs := bytes.map fun b => Char.ofNat b.toNat
  let escape (c : Char) : List Char :=
    if c = plainQuote cs then ['\\', c]
    else if c.toNat < 0x80 then escapeChar c
    else escapeCode c
  String.ofList (plainQuote cs :: cs.flatMap escape ++ [plainQuote cs])

def oneSingle : List Char := [singleQuote]

def oneDouble : List Char := [doubleQuote]

def threeDouble : List Char := [doubleQuote, doubleQuote, doubleQuote]

def threeSingle : List Char := [singleQuote, singleQuote, singleQuote]

def escapePart (escapeBreaks : Bool) (cs : List Char) : List Char :=
  cs.flatMap fun c => if !escapeBreaks && (c = '\n' || c = '\t') then [c] else escapeChar c

structure Part where
  body : List Char
  quotes : List (List Char)

def stablePartition (p : α → Bool) (xs : List α) : List α := xs.filter p ++ xs.filter (!p ·)

/-- Of the candidates those fit that do not occur in the escaped text; a text of several lines
takes three quotes. The quotes that differ from the last character come first, and if none does
that character is escaped. Where nothing fits, the text is escaped as a plain constant. -/
def writePart (candidates : List (List Char)) (escapeBreaks : Bool) (cs : List Char) : Part :=
  let body := escapePart escapeBreaks cs
  let candidates' := if body.contains '\n' then candidates.filter (·.length == 3) else candidates
  match candidates'.filter (!isInfix · body), body.getLast? with
  | [], _ =>
    let quote := plainQuote cs
    ⟨quotedBody cs, [(candidates.find? (·.contains quote)).getD [quote]]⟩
  | fitting, none => ⟨body, fitting⟩
  | fitting, some last =>
    match stablePartition (·.head? != some last) fitting with
    | [] => ⟨body, []⟩
    | best :: others =>
      if best.head? = some last then ⟨body.dropLast ++ ['\\', last], best :: others⟩
      else ⟨body, best :: others⟩

def writeLongText (s : String) : String :=
  let part := writePart [threeDouble, threeSingle] false s.toList
  let quote := part.quotes.headD threeDouble
  String.ofList (quote ++ part.body ++ quote)

def joinParts (parts : List (Bool × List Char)) : List Char × List Char :=
  let (body, quotes) := parts.foldl
    (fun (body, quotes) (escapeBreaks, cs) =>
      let part := writePart quotes escapeBreaks cs
      (body ++ part.body, part.quotes))
    ([], [oneSingle, oneDouble, threeDouble, threeSingle])
  (body, quotes.headD oneSingle)

def closesAtEnd (quote : List Char) : List Char → Bool
  | [] => false
  | '\\' :: rest =>
    match rest with
    | [] => false
    | _ :: rest => closesAtEnd quote rest
  | c :: rest =>
    if quote.isPrefixOf (c :: rest) then quote.length == (c :: rest).length
    else closesAtEnd quote rest

end TypedClient.Text
