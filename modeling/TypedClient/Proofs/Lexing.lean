import TypedClient.Proofs.QuotedText
import TypedClient.Target.Printer

namespace TypedClient

namespace Text

def BasicAll (ranges : List (Nat × Nat)) (p : Char → Bool) : Prop :=
  ranges.all (fun (first, last) =>
    0x80 ≤ first || (List.range (last + 1)).all fun n => n < first || p (Char.ofNat n)) = true

instance (ranges : List (Nat × Nat)) (p : Char → Bool) : Decidable (BasicAll ranges p) :=
  inferInstanceAs (Decidable (_ = true))

theorem BasicAll.of_inRanges {ranges : List (Nat × Nat)} {p : Char → Bool}
    (hall : BasicAll ranges p) {c : Char} (hc : c.toNat < 0x80) (h : inRanges ranges c = true) :
    p c = true := by
  obtain ⟨⟨first, last⟩, hmem, hbounds⟩ := List.any_eq_true.1 h
  have hrange := List.all_eq_true.1 hall _ hmem
  simp only [Bool.and_eq_true, decide_eq_true_eq] at hbounds
  simp only [Bool.or_eq_true, decide_eq_true_eq, Nat.not_le.2 (hbounds.1.trans_lt hc), false_or,
    List.all_eq_true, List.mem_range] at hrange
  have hp := hrange c.toNat (Nat.lt_succ_of_le hbounds.2)
  rwa [or_iff_right (Nat.not_lt.2 hbounds.1), Char.ofNat_toNat] at hp

theorem basicAll_start : BasicAll identifierStartRanges fun c =>
    Target.Lexeme.isWordChar c && (Target.Lexeme.digitIn? 10 c).isNone := by
  decide +kernel

theorem basicAll_part : BasicAll identifierPartRanges Target.Lexeme.isWordChar := by
  decide +kernel

theorem isWordChar_of_continues {c : Char} (h : continuesIdentifier c = true) :
    Target.Lexeme.isWordChar c = true := by
  rcases Nat.lt_or_ge c.toNat 0x80 with hc | hc
  · rcases Bool.or_eq_true_iff.1 h with h | h
    · exact (Bool.and_eq_true_iff.1 (basicAll_start.of_inRanges hc h)).1
    · exact basicAll_part.of_inRanges hc h
  · simp [Target.Lexeme.isWordChar, hc]

theorem continues_of_starts {c : Char} (h : startsIdentifier c = true) :
    continuesIdentifier c = true := by
  simp [continuesIdentifier, h]

theorem digitIn?_of_starts {c : Char} (h : startsIdentifier c = true) :
    Target.Lexeme.digitIn? 10 c = none := by
  rcases Nat.lt_or_ge c.toNat 0x80 with hc | hc
  · exact Option.isNone_iff_eq_none.1 (Bool.and_eq_true_iff.1 (basicAll_start.of_inRanges hc h)).2
  · simp [Target.Lexeme.digitIn?, Nat.not_lt.2 hc]

theorem exists_eq_cons_of_isIdentifierChars {cs : List Char} (h : isIdentifierChars cs = true) :
    ∃ c rest, cs = c :: rest ∧ startsIdentifier c = true ∧
      ∀ d ∈ cs, continuesIdentifier d = true := by
  cases cs with
  | nil => simp [isIdentifierChars] at h
  | cons c rest =>
    simp only [isIdentifierChars, Bool.and_eq_true, List.all_eq_true] at h
    refine ⟨c, rest, rfl, h.1, fun d hd => ?_⟩
    rcases List.mem_cons.1 hd with rfl | hd
    · exact continues_of_starts h.1
    · exact h.2 d hd

theorem unifyLineEnds_of_not_mem : ∀ {cs : List Char}, '\r' ∉ cs → unifyLineEnds cs = cs
  | [], _ => rfl
  | c :: rest, h => by
    simp only [List.mem_cons, not_or] at h
    have ih := unifyLineEnds_of_not_mem h.2
    unfold unifyLineEnds
    split
    next heq => simp at heq
    next heq => exact absurd (List.cons.inj heq).1.symm h.1
    next heq => exact absurd (List.cons.inj heq).1.symm h.1
    next heq =>
      obtain ⟨rfl, rfl⟩ := List.cons.inj heq
      rw [ih]

end Text

namespace Target.Lexeme

open Text

def IsBreak (c : Char) : Prop := isWordChar c = false ∧ c ≠ singleQuote ∧ c ≠ doubleQuote

instance (c : Char) : Decidable (IsBreak c) := inferInstanceAs (Decidable (_ ∧ _ ∧ _))

def Breaks (cs : List Char) : Prop := ∀ c, cs.head? = some c → IsBreak c

theorem Breaks.nil : Breaks [] := by simp [Breaks]

theorem Breaks.cons {c : Char} (h : IsBreak c) (cs : List Char) : Breaks (c :: cs) := by
  rintro d ⟨⟩
  exact h

structure Lexes (cs : List Char) (ls : List Lexeme) : Prop where
  read : ∀ n depth rest, Breaks rest → (cs ++ rest).length ≤ n →
    ∃ m d, rest.length ≤ m ∧ allFrom n depth (cs ++ rest) = (allFrom m d rest).map (ls ++ ·)
  unbroken : '\r' ∉ cs

theorem Lexes.all {s : String} {ls : List Lexeme} (h : Lexes s.toList ls) (depth : Nat) :
    all depth s = some ls := by
  obtain ⟨m, d, -, hread⟩ := h.read s.length depth [] .nil (by simp [String.length_toList])
  have hend : allFrom m d [] = some [] := by cases m <;> rfl
  rw [List.append_nil, hend] at hread
  rw [Lexeme.all, unifyLineEnds_of_not_mem h.unbroken, hread]
  simp

theorem Lexes.nil : Lexes [] [] where
  read n depth rest _ hn := ⟨n, depth, hn, by simp⟩
  unbroken := by simp

def IsSkipped (c : Char) : Prop := isSpace c = true ∨ c = '\n' ∨ c = '\\' ∨ c = '#'

instance (c : Char) : Decidable (IsSkipped c) := inferInstanceAs (Decidable (_ ∨ _ ∨ _ ∨ _))

theorem allFrom_of_first? {c : Char} {rest after : List Char} {l : Lexeme} (hc : ¬IsSkipped c)
    (h : first? (c :: rest) = some (l, after)) (n depth : Nat) :
    allFrom (n + 1) depth (c :: rest) = (allFrom n (l.depthAfter depth) after).map (l :: ·) := by
  simp only [IsSkipped, not_or] at hc
  obtain ⟨hspace, hfeed, hbackslash, hnumber⟩ := hc
  simp only [allFrom, if_neg hspace, if_neg hfeed, if_neg hbackslash, if_neg hnumber, h]

theorem Lexes.lead {c : Char} {token cs : List Char} {l : Lexeme} {ls : List Lexeme}
    (h : Lexes cs ls) (hc : ¬IsSkipped c) (hreturn : '\r' ∉ c :: token)
    (hfirst : ∀ rest, Breaks rest →
      first? (c :: token ++ (cs ++ rest)) = some (l, cs ++ rest)) :
    Lexes (c :: token ++ cs) (l :: ls) where
  read n depth rest hrest hn := by
    obtain ⟨n, rfl⟩ : ∃ k, n = k + 1 := ⟨n - 1, by simp at hn; omega⟩
    obtain ⟨m, d, hm, hread⟩ :=
      h.read n (l.depthAfter depth) rest hrest (by simp at hn ⊢; omega)
    refine ⟨m, d, hm, ?_⟩
    have hstep := allFrom_of_first? hc (hfirst rest hrest) n depth
    rw [hread] at hstep
    rw [List.append_assoc]
    simpa [Function.comp_def] using hstep
  unbroken := by
    rw [List.mem_append, not_or]
    exact ⟨hreturn, h.unbroken⟩

theorem Lexes.space {cs : List Char} {ls : List Lexeme} (h : Lexes cs ls) :
    Lexes (' ' :: cs) ls where
  read n depth rest hrest hn := by
    obtain ⟨n, rfl⟩ : ∃ k, n = k + 1 := ⟨n - 1, by simp at hn; omega⟩
    obtain ⟨m, d, hm, hread⟩ := h.read n depth rest hrest (by simp at hn ⊢; omega)
    exact ⟨m, d, hm, by rw [← hread, List.cons_append, allFrom]; rfl⟩
  unbroken := by
    simp only [List.mem_cons, not_or]
    exact ⟨by decide, h.unbroken⟩

theorem Lexes.append {cs ds : List Char} {c : Char} {ls ks : List Lexeme} (h : Lexes cs ls)
    (hc : IsBreak c) (hrest : Lexes (c :: ds) ks) : Lexes (cs ++ c :: ds) (ls ++ ks) where
  read n depth rest hbreaks hn := by
    obtain ⟨m, d, hm, hread⟩ :=
      h.read n depth (c :: ds ++ rest) (.cons hc _) (by simpa [List.append_assoc] using hn)
    obtain ⟨m', d', hm', hread'⟩ := hrest.read m d rest hbreaks hm
    refine ⟨m', d', hm', ?_⟩
    rw [List.append_assoc, hread, hread']
    simp [Function.comp_def]
  unbroken := by
    rw [List.mem_append, not_or]
    exact ⟨h.unbroken, hrest.unbroken⟩

def brackets : List Char := ['(', ')', '[', ']', ',']

theorem first?_bracket {c : Char} (hc : c ∈ brackets) (rest : List Char) :
    first? (c :: rest) = some (.mark c.toString, rest) := by
  simp only [brackets, List.mem_cons, List.not_mem_nil, or_false] at hc
  rcases hc with rfl | rfl | rfl | rfl | rfl <;> rfl

theorem Lexes.bracket {c : Char} {cs : List Char} {ls : List Lexeme} (hc : c ∈ brackets)
    (h : Lexes cs ls) : Lexes (c :: cs) (.mark c.toString :: ls) := by
  have hplain : ¬IsSkipped c ∧ '\r' ∉ [c] := by
    simp only [brackets, List.mem_cons, List.not_mem_nil, or_false] at hc
    rcases hc with rfl | rfl | rfl | rfl | rfl <;> decide
  exact h.lead hplain.1 hplain.2 fun rest _ => first?_bracket hc (cs ++ rest)

theorem not_isSkipped_of_word {c : Char} (hc : isWordChar c = true) : ¬IsSkipped c := by
  rintro (hspace | rfl | rfl | rfl)
  · simp only [isSpace, Bool.or_eq_true, beq_iff_eq] at hspace
    rcases hspace with (rfl | rfl) | rfl <;> exact absurd hc (by decide)
  all_goals exact absurd hc (by decide)

section

variable {w : List Char} (h : isIdentifierChars w = true)
include h

theorem isWordChar_of_mem {c : Char} (hc : c ∈ w) : isWordChar c = true := by
  obtain ⟨-, -, -, -, hall⟩ := exists_eq_cons_of_isIdentifierChars h
  exact isWordChar_of_continues (hall c hc)

theorem takeWhile_word {rest : List Char} (hrest : Breaks rest) :
    (w ++ rest).takeWhile isWordChar = w ∧ (w ++ rest).dropWhile isWordChar = rest := by
  have hw : ∀ c ∈ w, isWordChar c = true := fun _ => isWordChar_of_mem h
  rw [List.takeWhile_append_of_pos hw, List.dropWhile_append_of_pos hw]
  cases rest with
  | nil => simp
  | cons c rest => simp [(hrest c rfl).1]

theorem first?_word {rest : List Char} (hrest : Breaks rest) :
    first? (w ++ rest) = some (.word (String.ofList w), rest) := by
  obtain ⟨htake, hdrop⟩ := takeWhile_word h hrest
  obtain ⟨c, cs, rfl, hstarts, hall⟩ := exists_eq_cons_of_isIdentifierChars h
  have hword := isWordChar_of_continues (continues_of_starts hstarts)
  have hpoint : c ≠ '.' := by
    rintro rfl
    exact absurd hword (by decide)
  have hread : wordOrText (c :: cs ++ rest) = some (.word (String.ofList (c :: cs)), rest) := by
    rw [wordOrText, htake, hdrop, if_pos h]
    split
    next q after form _ =>
      have hquote : ¬(q = '\'' ∨ q = '\x22') := by
        rintro (rfl | rfl)
        · exact (hrest _ rfl).2.1 rfl
        · exact (hrest _ rfl).2.2 rfl
      rw [if_neg hquote]
    next => rfl
  rw [List.cons_append] at hread ⊢
  rw [first?]
  simp [startsWithDigit, digitIn?_of_starts hstarts, hpoint, hword, hread]

theorem return_not_mem_word : '\r' ∉ w := fun hmem =>
  absurd (isWordChar_of_mem h hmem) (by decide)

theorem Lexes.word : Lexes w [.word (String.ofList w)] := by
  have hfirst := fun rest (hrest : Breaks rest) => first?_word h hrest
  have hreturn := return_not_mem_word h
  obtain ⟨c, cs, rfl, hstarts, -⟩ := exists_eq_cons_of_isIdentifierChars h
  have hskipped := not_isSkipped_of_word (isWordChar_of_continues (continues_of_starts hstarts))
  simpa using Lexes.nil.lead hskipped hreturn (by simpa using hfirst)

theorem first?_point (rest : List Char) :
    first? ('.' :: (w ++ rest)) = some (.mark ".", w ++ rest) := by
  obtain ⟨c, cs, rfl, hstarts, -⟩ := exists_eq_cons_of_isIdentifierChars h
  have hpoint : '.' ≠ c := by
    rintro rfl
    exact absurd (isWordChar_of_continues (continues_of_starts hstarts)) (by decide)
  have hdigit : digitIn? 10 '.' = none := rfl
  have hword : isWordChar '.' = false := rfl
  have hmark : mark? ('.' :: (c :: cs ++ rest)) = some (.mark ".", c :: cs ++ rest) := by
    have hlength : ".".length = 1 := rfl
    simp [mark?, marks, List.isPrefixOf, hpoint, hlength]
  rw [first?]
  simpa [startsWithDigit, hdigit, digitIn?_of_starts hstarts, hword] using hmark

theorem Lexes.point : Lexes ('.' :: w) [.mark ".", .word (String.ofList w)] := by
  have hskipped : ¬IsSkipped '.' := by decide
  have hreturn : '\r' ∉ ['.'] := by decide
  exact (Lexes.word h).lead hskipped hreturn fun rest _ => first?_point h rest

theorem Lexes.assignment {c : Char} {cs : List Char} {ls : List Lexeme} (hc : c ≠ '=')
    (hvalue : Lexes (c :: cs) ls) :
    Lexes (w ++ '=' :: c :: cs) (.word (String.ofList w) :: .mark "=" :: ls) := by
  have hskipped : ¬IsSkipped '=' := by decide
  have hreturn : '\r' ∉ ['='] := by decide
  have hbreak : IsBreak '=' := by decide
  refine (Lexes.word h).append hbreak (hvalue.lead hskipped hreturn fun rest _ => ?_)
  have hdigit : digitIn? 10 '=' = none := rfl
  have hword : isWordChar '=' = false := rfl
  have hlength : "=".length = 1 := rfl
  simp [first?, startsWithDigit, hdigit, hword, mark?, marks, List.isPrefixOf, hc.symm, hlength]

end

theorem Lexes.ellipsis : Lexes ['.', '.', '.'] [.mark "..."] := by
  have hskipped : ¬IsSkipped '.' := by decide
  have hreturn : '\r' ∉ ['.', '.', '.'] := by decide
  exact Lexes.nil.lead hskipped hreturn fun rest _ => rfl

theorem plainQuote_facts (cs : List Char) :
    ¬IsSkipped (plainQuote cs) ∧ plainQuote cs ≠ '\r' ∧ plainQuote cs ≠ '=' ∧
      (plainQuote cs = '\'' ∨ plainQuote cs = '\x22') ∧
      digitIn? 10 (plainQuote cs) = none ∧ isWordChar (plainQuote cs) = false := by
  rcases plainQuote_eq cs with h | h <;> rw [h] <;> decide

theorem first?_quoted (cs : List Char) {rest : List Char} (hrest : Breaks rest) :
    first? (quotedChars cs ++ rest) = some (.value (.text (String.ofList cs)), rest) := by
  obtain ⟨-, -, -, hquote, hdigit, hword⟩ := plainQuote_facts cs
  have hpoint : plainQuote cs ≠ '.' := by
    rcases hquote with h | h <;> rw [h] <;> decide
  have hhead : rest.head? ≠ some (plainQuote cs) := by
    intro heq
    have hbreak := hrest _ heq
    rcases hquote with h | h <;> rw [h] at hbreak
    · exact hbreak.2.1 rfl
    · exact hbreak.2.2 rfl
  have hread : wordOrText (plainQuote cs :: (quotedBody cs ++ plainQuote cs :: rest)) =
      some (.value (.text (String.ofList cs)), rest) := by
    simp [wordOrText, hword, textForm?, hquote, quotedText_quotedBody cs hhead]
  rw [quotedChars, List.cons_append, List.cons_append, List.append_assoc,
    List.singleton_append, first?]
  simpa [startsWithDigit, hdigit, hpoint, hword, hquote] using hread

theorem Lexes.quoted (cs : List Char) :
    Lexes (quotedChars cs) [.value (.text (String.ofList cs))] := by
  obtain ⟨hskipped, hne, -⟩ := plainQuote_facts cs
  have hbody : '\r' ∉ quotedBody cs := unbroken_flatMap (isImage_quoted cs) cs
  have hreturn : '\r' ∉ plainQuote cs :: (quotedBody cs ++ [plainQuote cs]) := by
    simp [hne.symm, hbody]
  simpa [quotedChars] using Lexes.nil.lead hskipped hreturn fun rest hrest => by
    simpa [quotedChars] using first?_quoted cs hrest

def separated : List (List Lexeme) → List Lexeme
  | [] => []
  | [ls] => ls
  | ls :: rest => ls ++ .mark "," :: separated rest

theorem Lexes.separated {css : List (List Char)} {lss : List (List Lexeme)}
    (h : List.Forall₂ Lexes css lss) :
    Lexes ([',', ' '].intercalate css) (Lexeme.separated lss) := by
  induction h with
  | nil => exact .nil
  | @cons cs ls css lss hfirst hrest ih =>
    cases hrest with
    | nil => simpa [Lexeme.separated] using hfirst
    | cons =>
      have hcomma : IsBreak ',' := by decide
      rw [List.intercalate_cons_cons, List.append_assoc, Lexeme.separated]
      · exact hfirst.append hcomma (ih.space.bracket (by decide))
      · simp

end Target.Lexeme

end TypedClient
