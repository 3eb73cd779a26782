namespace TypedClient.Text

def sixBits? (c : Char) : Option Nat :=
  if 'A' ≤ c ∧ c ≤ 'Z' then some (c.toNat - 'A'.toNat)
  else if 'a' ≤ c ∧ c ≤ 'z' then some (c.toNat - 'a'.toNat + 26)
  else if '0' ≤ c ∧ c ≤ '9' then some (c.toNat - '0'.toNat + 52)
  else if c = '+' then some 62
  else if c = '/' then some 63
  else none

def base64From (place bits pads : Nat) (bytes : List UInt8) : List Char → Option (List UInt8)
  | [] => if place = 0 then some bytes.reverse else none
  | '=' :: rest =>
    if 2 ≤ place ∧ 4 ≤ place + pads + 1 then some bytes.reverse
    else base64From place bits (if 2 ≤ place then pads + 1 else pads) bytes rest
  | c :: rest =>
    match sixBits? c, place with
    | none, _ => base64From place bits pads bytes rest
    | some n, 0 => base64From 1 n 0 bytes rest
    | some n, 1 => base64From 2 (n % 16) 0 (UInt8.ofNat (bits * 4 + n / 16) :: bytes) rest
    | some n, 2 => base64From 3 (n % 4) 0 (UInt8.ofNat (bits * 16 + n / 4) :: bytes) rest
    | some n, _ => base64From 0 0 0 (UInt8.ofNat (bits * 64 + n) :: bytes) rest

def base64? (cs : List Char) : Option (List UInt8) := base64From 0 0 0 [] cs

end TypedClient.Text
