import TypedClient.Text.Quoted

namespace TypedClient

inductive DecodingFault
  | start
  | continuation
  | truncated
  deriving DecidableEq

structure DecodingError where
  fault : DecodingFault
  first : Nat
  stop : Nat
  byte : UInt8
  deriving DecidableEq

def DecodingFault.message : DecodingFault → String
  | .start => "invalid start byte"
  | .continuation => "invalid continuation byte"
  | .truncated => "unexpected end of data"

def DecodingError.message (e : DecodingError) : String :=
  let place :=
    if e.stop = e.first + 1 then
      s!"byte 0x{String.ofList (Text.hexDigits 2 e.byte.toNat)} in position {e.first}"
    else s!"bytes in position {e.first}-{e.stop - 1}"
  s!"'utf-8' codec can't decode {place}: {e.fault.message}"

namespace Text

def followers (b : UInt8) : Option (Nat × UInt8 × UInt8) :=
  if b < 0x80 then some (0, 0, 0)
  else if b < 0xc2 then none
  else if b < 0xe0 then some (1, 0x80, 0xbf)
  else if b = 0xe0 then some (2, 0xa0, 0xbf)
  else if b = 0xed then some (2, 0x80, 0x9f)
  else if b < 0xf0 then some (2, 0x80, 0xbf)
  else if b = 0xf0 then some (3, 0x90, 0xbf)
  else if b < 0xf4 then some (3, 0x80, 0xbf)
  else if b = 0xf4 then some (3, 0x80, 0x8f)
  else none

def leadBits (count : Nat) (b : UInt8) : Nat :=
  match count with
  | 0 => b.toNat
  | 1 => b.toNat % 32
  | 2 => b.toNat % 16
  | _ => b.toNat % 8

structure Pending where
  lead : UInt8
  first : Nat
  bits : Nat
  left : Nat
  low : UInt8
  high : UInt8

def startByte (position : Nat) (b : UInt8) : Except DecodingError (Char ⊕ Pending) :=
  match followers b with
  | none => .error ⟨.start, position, position + 1, b⟩
  | some (0, _, _) => .ok (.inl (Char.ofNat b.toNat))
  | some (count, low, high) => .ok (.inr ⟨b, position, leadBits count b, count, low, high⟩)

def decodeFrom (position : Nat) (pending : Option Pending) (done : List Char) :
    List UInt8 → Except DecodingError (List Char)
  | [] =>
    match pending with
    | none => .ok done.reverse
    | some p => .error ⟨.truncated, p.first, position, p.lead⟩
  | b :: rest =>
    match pending with
    | none =>
      match startByte position b with
      | .error e => .error e
      | .ok (.inl c) => decodeFrom (position + 1) none (c :: done) rest
      | .ok (.inr p) => decodeFrom (position + 1) (some p) done rest
    | some p =>
      if p.low ≤ b ∧ b ≤ p.high then
        let bits := p.bits * 64 + b.toNat % 64
        if p.left = 1 then decodeFrom (position + 1) none (Char.ofNat bits :: done) rest
        else
          decodeFrom (position + 1) (some ⟨p.lead, p.first, bits, p.left - 1, 0x80, 0xbf⟩) done rest
      else .error ⟨.continuation, p.first, position, p.lead⟩

def decode (bytes : List UInt8) : Except DecodingError String :=
  (decodeFrom 0 none [] bytes).map String.ofList

end Text

/-- Halves of surrogate pairs have no bytes. The first of them and those right after it. -/
structure EncodingError where
  first : Nat
  halves : List Char
  deriving DecidableEq

def EncodingError.message (e : EncodingError) : String :=
  let place :=
    match e.halves with
    | [c] =>
      "character '\\u" ++ String.ofList (Text.hexDigits 4 (Text.codePoint c))
        ++ s!"' in position {e.first}"
    | halves => s!"characters in position {e.first}-{e.first + halves.length - 1}"
  s!"'utf-8' codec can't encode {place}: surrogates not allowed"

namespace Text

def isByte (c : Char) : Bool := 0xdc80 + halfOffset ≤ c.toNat && c.toNat < 0xdd00 + halfOffset

def encodingErrorBut? (isExcepted : Char → Bool) (s : String) : Option EncodingError :=
  let before := s.toList.takeWhile fun c => !isLone c || isExcepted c
  match (s.toList.drop before.length).takeWhile isLone with
  | [] => none
  | halves => some ⟨before.length, halves⟩

def encodingError? (s : String) : Option EncodingError := encodingErrorBut? (fun _ => false) s

end Text

end TypedClient
