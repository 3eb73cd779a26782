namespace TypedClient.Text

def isHalf (code : Nat) : Bool := 0xd800 ≤ code && code < 0xe000

def halfOffset : Nat := 0x90000

def ofCodePoint (code : Nat) : Char :=
  Char.ofNat (if isHalf code then code + halfOffset else code)

/-- Whether a character is kept for half of a pair. -/
def isLone (c : Char) : Bool := isHalf (c.toNat - halfOffset)

def codePoint (c : Char) : Nat :=
  if isHalf (c.toNat - halfOffset) then c.toNat - halfOffset else c.toNat

theorem isHalf_iff {code : Nat} : isHalf code ↔ 0xd800 ≤ code ∧ code < 0xe000 := by
  simp [isHalf]

theorem toNat_ofNat_of_valid {n : Nat} (h : n.isValidChar) : (Char.ofNat n).toNat = n := by
  rw [Char.ofNat, dif_pos h]
  rfl

end TypedClient.Text
