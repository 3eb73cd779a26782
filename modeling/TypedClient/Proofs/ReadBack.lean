import TypedClient.Proofs.Lexing
import TypedClient.Target.Term.Reading

namespace TypedClient.Target

open Lexeme Reading

structure IsName (w : String) : Prop where
  isIdentifier : Text.isIdentifier w = true
  not_mem_keywords : w ∉ keywords

instance : DecidablePred IsName := fun w =>
  decidable_of_iff (Text.isIdentifier w = true ∧ w ∉ keywords)
    ⟨fun h => ⟨h.1, h.2⟩, fun h => ⟨h.isIdentifier, h.not_mem_keywords⟩⟩

namespace Constant

def lexeme : Constant → Lexeme
  | none => .word "None"
  | true => .word "True"
  | ellipsis => .mark "..."
  | text s => .value (.text s)

def literal : Constant → Literal
  | none => .none
  | true => .bool .true
  | ellipsis => .ellipsis
  | text s => .text s

end Constant

/-- The lexemes that an expression is printed as, and the term that they say. -/
inductive Says : Expr → List Lexeme → Term → Prop
  | name {w} : IsName w → Says (.name w) [.word w] (.name (Text.normal w))
  | constant (c) : Says (.constant c) [c.lexeme] (.literal c.literal)
  | attr {e ls t key} : Says e ls t → IsName key →
      Says (.attr e key) (ls ++ [.mark ".", .word key]) (.attribute t (Text.normal key))
  | subscript {e ls t index ks u} : Says e ls t → Says index ks u →
      Says (.subscript e [index]) (ls ++ .mark "[" :: (ks ++ [.mark "]"])) (.subscript t u)

/-! Printed text. -/

theorem Says.print_eq {e : Expr} {ls : List Lexeme} {t : Term} (h : Says e ls t)
    (needed : Expr.Binding) : e.print needed = e.text := by
  cases h <;> simp [Expr.text, Expr.print]

theorem Says.text_attr {e : Expr} {ls : List Lexeme} {t : Term} (h : Says e ls t) (key : String) :
    (Expr.attr e key).text.toList = e.text.toList ++ '.' :: key.toList := by
  rw [Expr.text, Expr.print, h.print_eq]
  simp

theorem Says.text_subscript {e : Expr} {ls : List Lexeme} {t : Term} (h : Says e ls t)
    (index : Expr) : (Expr.subscript e [index]).text.toList =
      e.text.toList ++ '[' :: (index.text.toList ++ [']']) := by
  rw [Expr.text, Expr.print, h.print_eq]
  simp [Expr.printAll, Expr.text]

theorem IsName.lexes {w : String} (h : IsName w) : Lexes w.toList [.word w] := by
  simpa using Lexes.word h.isIdentifier

theorem lexes_constant (c : Constant) : Lexes c.print.toList [c.lexeme] := by
  have hword : ∀ w ∈ ["None", "True"], Text.isIdentifierChars w.toList = true := by decide
  cases c with
  | none => exact Lexes.word (hword "None" (by simp))
  | «true» => exact Lexes.word (hword "True" (by simp))
  | ellipsis => exact .ellipsis
  | text s => simpa [Constant.print, Text.quoted, Constant.lexeme] using Lexes.quoted s.toList

theorem Says.lexes {e : Expr} {ls : List Lexeme} {t : Term} (h : Says e ls t) :
    Lexes e.text.toList ls := by
  induction h with
  | name hw => simpa [Expr.text, Expr.print] using hw.lexes
  | constant c => simpa [Expr.text, Expr.print] using lexes_constant c
  | @attr e ls t key h hkey ih =>
    have hpoint : IsBreak '.' := by decide
    have hmember : Lexes ('.' :: key.toList) [.mark ".", .word key] := by
      simpa using Lexes.point hkey.isIdentifier
    rw [h.text_attr]
    exact ih.append hpoint hmember
  | @subscript e ls t index ks u h hindex ih ihindex =>
    have hopen : IsBreak '[' := by decide
    have hclose : IsBreak ']' := by decide
    have hend : Lexes [']'] [.mark "]"] := Lexes.nil.bracket (by decide)
    rw [h.text_subscript]
    exact ih.append hopen ((ihindex.append hclose hend).bracket (by decide))

theorem Says.head_text {e : Expr} {ls : List Lexeme} {t : Term} (h : Says e ls t) :
    ∃ c cs, e.text.toList = c :: cs ∧ c ≠ '=' := by
  induction h with
  | @name w hw =>
    obtain ⟨c, cs, hcs, hstarts, -⟩ := Text.exists_eq_cons_of_isIdentifierChars hw.isIdentifier
    refine ⟨c, cs, by simpa [Expr.text, Expr.print] using hcs, ?_⟩
    rintro rfl
    exact absurd (Text.isWordChar_of_continues (Text.continues_of_starts hstarts)) (by decide)
  | constant c =>
    cases c with
    | none => exact ⟨'N', ['o', 'n', 'e'], rfl, by decide⟩
    | «true» => exact ⟨'T', ['r', 'u', 'e'], rfl, by decide⟩
    | ellipsis => exact ⟨'.', ['.', '.'], rfl, by decide⟩
    | text s =>
      refine ⟨Text.plainQuote s.toList, Text.quotedBody s.toList ++ [Text.plainQuote s.toList], ?_,
        (plainQuote_facts s.toList).2.2.1⟩
      simp [Expr.text, Expr.print, Constant.print, Text.quoted, Text.quotedChars]
  | attr h _ ih =>
    obtain ⟨c, cs, hcs, hc⟩ := ih
    exact ⟨c, _, by rw [h.text_attr, hcs, List.cons_append], hc⟩
  | subscript h _ ih =>
    obtain ⟨c, cs, hcs, hc⟩ := ih
    exact ⟨c, _, by rw [h.text_subscript, hcs, List.cons_append], hc⟩

/-! Steps of the reader. -/

namespace Reading

theorem bind_run {x : Reading α} {f : α → Reading β} {ls rest : List Lexeme} {a : α}
    (h : x ls = some (a, rest)) : (x >>= f) ls = f a rest := by
  simp [bind, StateT.bind, h]

theorem then_run {x : Reading Bool} {f g : Reading α} {ls rest : List Lexeme}
    (h : x ls = some (true, rest)) : (do if ← x then f else g) ls = f rest := by
  rw [bind_run h, if_pos rfl]

theorem else_run {x : Reading Bool} {f g : Reading α} {ls rest : List Lexeme}
    (h : x ls = some (false, rest)) : (do if ← x then f else g) ls = g rest := by
  rw [bind_run h, if_neg Bool.false_ne_true]

@[simp] theorem peek?_run (ls : List Lexeme) : peek? ls = some (ls.head?, ls) := rfl

@[simp] theorem get_run (ls : List Lexeme) : (get : Reading (List Lexeme)) ls = some (ls, ls) := rfl

theorem accept_cons (l l' : Lexeme) (rest : List Lexeme) :
    accept l (l' :: rest) = some (if l' == l then (true, rest) else (false, l' :: rest)) := by
  have hsome : ((some l' : Option Lexeme) == some l) = (l' == l) := rfl
  rw [accept, bind_run (peek?_run _), List.head?_cons, hsome]
  cases l' == l <;> rfl

@[simp] theorem mark_mark (m m' : String) (rest : List Lexeme) :
    mark m (.mark m' :: rest) =
      some (if m' = m then (true, rest) else (false, .mark m' :: rest)) := by
  have hbeq : (Lexeme.mark m' == .mark m) = (m' == m) := rfl
  simp [mark, accept_cons, hbeq]

@[simp] theorem word_word (w w' : String) (rest : List Lexeme) :
    word w (.word w' :: rest) =
      some (if w' = w then (true, rest) else (false, .word w' :: rest)) := by
  have hbeq : (Lexeme.word w' == .word w) = (w' == w) := rfl
  simp [word, accept_cons, hbeq]

theorem mark_self (m : String) (rest : List Lexeme) :
    mark m (.mark m :: rest) = some (true, rest) := by
  rw [mark_mark, if_pos rfl]

theorem mark_of_ne {m m' : String} (h : m' ≠ m) (rest : List Lexeme) :
    mark m (.mark m' :: rest) = some (false, .mark m' :: rest) := by
  rw [mark_mark, if_neg h]

theorem expectMark_self (m : String) (rest : List Lexeme) :
    expectMark m (.mark m :: rest) = some ((), rest) := by
  rw [expectMark, bind_run (mark_self m rest)]
  rfl

theorem identifier_name {w : String} (h : w ∉ keywords) (rest : List Lexeme) :
    identifier (.word w :: rest) = some (Text.normal w, rest) := by
  have hcontains : keywords.contains w = false := by simpa using h
  have hread : identifier? (.word w :: rest) = some (some (Text.normal w), rest) := by
    rw [identifier?, bind_run (peek?_run _), List.head?_cons]
    simp only [hcontains]
    rfl
  rw [identifier, bind_run hread]
  rfl

/-! What follows an expression. -/

def closers : List String := ["]", ")", ","]

inductive Closes : List Lexeme → Prop
  | nil : Closes []
  | close {m} : m ∈ closers → ∀ rest, Closes (.mark m :: rest)

theorem Closes.mark_run {rest : List Lexeme} (h : Closes rest) {m : String} (hm : m ∉ closers) :
    mark m rest = some (false, rest) := by
  cases h with
  | nil => rfl
  | close hm' rest =>
    refine mark_of_ne ?_ rest
    rintro rfl
    exact hm hm'

theorem Closes.word_run {rest : List Lexeme} (h : Closes rest) (w : String) :
    word w rest = some (false, rest) := by
  cases h <;> rfl

section

variable {rest : List Lexeme} (h : Closes rest)
include h

theorem trailers_of_closes (n : Nat) (t : Term) : trailers (n + 1) t rest = some (t, rest) := by
  rw [trailers, else_run (h.mark_run (by decide)), else_run (h.mark_run (by decide)),
    else_run (h.mark_run (by decide))]
  rfl

theorem comparisons_of_closes (n : Nat) : comparisons (n + 1) rest = some ([], rest) := by
  have hnone : comparison? rest = some (none, rest) := by
    cases h with
    | nil => rfl
    | close hm =>
      simp only [closers, List.mem_cons, List.not_mem_nil, or_false] at hm
      rcases hm with rfl | rfl | rfl <;> rfl
  rw [comparisons, bind_run hnone]
  rfl

theorem source?_of_closes (n : Nat) : source? (n + 1) rest = some (none, rest) := by
  have hasync : discard (word "async") rest = some ((), rest) := by
    cases h <;> rfl
  rw [source?, bind_run hasync, else_run (h.word_run "for")]
  rfl

def IsOpen (level : List (String × BinaryOp)) : Prop := ∀ m ∈ closers, level.lookup m = none

omit h in
theorem isOpen_of_mem_levels : ∀ level ∈ levels, IsOpen level := by
  unfold IsOpen
  decide

theorem operands_of_closes {level : List (String × BinaryOp)} (hlevel : IsOpen level)
    (tighter : List (List (String × BinaryOp))) (n : Nat) (t : Term) :
    operands (n + 1) level tighter t rest = some (t, rest) := by
  have hnone : operator? level rest = some (none, rest) := by
    cases h with
    | nil => rfl
    | close hm =>
      rw [operator?, bind_run (peek?_run _), List.head?_cons]
      simp only [hlevel _ hm]
      rfl
  rw [operands, bind_run hnone]
  rfl

end

/-! The levels above an expression that starts with a name or a constant. -/

inductive Leads : Lexeme → Prop
  | name {w} : w ≠ "lambda" → w ≠ "not" → Leads (.word w)
  | value (v) : Leads (.value v)
  | ellipsis : Leads (.mark "...")

theorem Leads.mark_run {l : Lexeme} (h : Leads l) {m : String} (hm : m ≠ "...")
    (tail : List Lexeme) : mark m (l :: tail) = some (false, l :: tail) := by
  cases h with
  | name => rfl
  | value => rfl
  | ellipsis => exact mark_of_ne hm.symm tail

theorem Leads.word_run {l : Lexeme} (h : Leads l) {w : String} (hw : w ∈ ["lambda", "not"])
    (tail : List Lexeme) : word w (l :: tail) = some (false, l :: tail) := by
  cases h with
  | name hlambda hnot =>
    simp only [List.mem_cons, List.not_mem_nil, or_false] at hw
    rcases hw with rfl | rfl <;> simp [hlambda, hnot]
  | value => rfl
  | ellipsis => rfl

section

variable {l : Lexeme} {tail rest : List Lexeme} {n : Nat} {t : Term} (hleads : Leads l)
  (hcloses : Closes rest) (h : (do trailers n (← atom n)) (l :: tail) = some (t, rest))
include hleads hcloses h

theorem signed_run : signed (n + 1) (l :: tail) = some (t, rest) := by
  have hsign : sign? (l :: tail) = some (none, l :: tail) := by
    rw [sign?, else_run (hleads.mark_run (by decide) tail),
      else_run (hleads.mark_run (by decide) tail), else_run (hleads.mark_run (by decide) tail)]
    rfl
  rw [signed, bind_run hsign]
  simp only
  rw [← bind_assoc, bind_run h, else_run (hcloses.mark_run (by decide))]
  rfl

theorem operand_run (tighter : List (List (String × BinaryOp)))
    (htighter : ∀ level ∈ tighter, IsOpen level) :
    operand (n + 2 + tighter.length) tighter (l :: tail) = some (t, rest) := by
  induction tighter with
  | nil => exact signed_run hleads hcloses h
  | cons level tighter ih =>
    have hfirst := ih fun level hlevel => htighter level (by simp [hlevel])
    have hfuel : n + 2 + tighter.length = n + 1 + tighter.length + 1 := by omega
    rw [List.length_cons, ← Nat.add_assoc, operand, bind_run hfirst, hfuel]
    exact operands_of_closes hcloses (htighter level (by simp)) tighter _ t

theorem negation_run : negation (n + 9) (l :: tail) = some (t, rest) := by
  have hoperand : operand (n + 8) levels (l :: tail) = some (t, rest) :=
    operand_run hleads hcloses h levels isOpen_of_mem_levels
  rw [negation, else_run (hleads.word_run (by simp) tail), bind_run hoperand,
    bind_run (comparisons_of_closes hcloses (n + 7))]
  rfl

theorem expression_run : expression (n + 12) (l :: tail) = some (t, rest) := by
  have hconjunction : conjunction (n + 10) (l :: tail) = some (t, rest) := by
    rw [conjunction, bind_run (negation_run hleads hcloses h), else_run (hcloses.word_run "and")]
    rfl
  have hdisjunction : disjunction (n + 11) (l :: tail) = some (t, rest) := by
    rw [disjunction, bind_run hconjunction, else_run (hcloses.word_run "or")]
    rfl
  rw [expression, else_run (hleads.word_run (by simp) tail), bind_run hdisjunction,
    else_run (hcloses.word_run "if")]
  rfl

end

theorem item_run {l : Lexeme} {tail rest : List Lexeme} {n : Nat} {t : Term} (hleads : Leads l)
    (h : expression n (l :: tail) = some (t, rest)) :
    item (n + 1) (l :: tail) = some (t, rest) := by
  rw [item, else_run (hleads.mark_run (by decide) tail), h]

theorem indices_run {l : Lexeme} {tail rest : List Lexeme} {n : Nat} {t : Term} (hleads : Leads l)
    (h : expression n (l :: tail) = some (t, .mark "]" :: rest)) :
    indices (n + 4) (l :: tail) = some (⟨[t], false⟩, .mark "]" :: rest) := by
  have hbound : bound? (n + 2) (l :: tail) = some (some t, .mark "]" :: rest) := by
    rw [bound?, bind_run (peek?_run _), List.head?_cons]
    cases hleads with
    | name hlambda hnot => exact bind_run (item_run (.name hlambda hnot) h)
    | value v => exact bind_run (item_run (.value v) h)
    | ellipsis => exact bind_run (item_run .ellipsis h)
  have hindex : index (n + 3) (l :: tail) = some (t, .mark "]" :: rest) := by
    rw [index, bind_run hbound, else_run (mark_of_ne (by decide) rest)]
    rfl
  rw [indices, bind_run hindex, else_run (mark_of_ne (by decide) rest)]
  rfl

/-! Names and constants. -/

def NoText (ls : List Lexeme) : Prop := ∀ v, ls.head? ≠ some (.value v)

theorem noText_mark (m : String) (rest : List Lexeme) : NoText (.mark m :: rest) := by
  simp [NoText]

theorem Closes.noText {rest : List Lexeme} (h : Closes rest) : NoText rest := by
  cases h <;> simp [NoText]

theorem atom_run {l : Lexeme} {tail rest : List Lexeme} {t : Term} (hleads : Leads l)
    (h : leaf (l :: tail) = some (t, rest)) (n : Nat) :
    atom (n + 1) (l :: tail) = some (t, rest) := by
  rw [atom, else_run (hleads.mark_run (by decide) tail),
    else_run (hleads.mark_run (by decide) tail), else_run (hleads.mark_run (by decide) tail), h]

theorem leads_name {w : String} (h : w ∉ keywords) : Leads (.word w) := by
  have hkeywords : "lambda" ∈ keywords ∧ "not" ∈ keywords := by decide
  constructor
  · rintro rfl
    exact h hkeywords.1
  · rintro rfl
    exact h hkeywords.2

theorem leads_constant (c : Constant) : Leads c.lexeme := by
  cases c with
  | none => exact .name (by decide) (by decide)
  | «true» => exact .name (by decide) (by decide)
  | ellipsis => exact .ellipsis
  | text s => exact .value _

theorem leaf_name {w : String} (h : w ∉ keywords) (rest : List Lexeme) :
    leaf (.word w :: rest) = some (.name (Text.normal w), rest) := by
  have hconstant : constantOf? w = none := by
    have hkeywords : "None" ∈ keywords ∧ "True" ∈ keywords ∧ "False" ∈ keywords := by decide
    unfold constantOf?
    split
    · exact absurd hkeywords.1 h
    · exact absurd hkeywords.2.1 h
    · exact absurd hkeywords.2.2 h
    · rfl
  rw [leaf, bind_run (peek?_run _), List.head?_cons]
  simp only [hconstant]
  rw [bind_run (identifier_name h rest)]
  rfl

theorem leaf_constant (c : Constant) {rest : List Lexeme} (hrest : NoText rest) :
    leaf (c.lexeme :: rest) = some (.literal c.literal, rest) := by
  cases c with
  | none => rfl
  | «true» => rfl
  | ellipsis => rfl
  | text s =>
    have hjoined : joined (.text s) rest = some (.text s, rest) := by
      match rest, hrest with
      | [], _ => rfl
      | .word _ :: _, _ => rfl
      | .mark _ :: _, _ => rfl
      | .value v :: _, hrest => exact absurd rfl (hrest v)
    change (joined (.text s) rest).bind _ = _
    rw [hjoined]
    rfl

end Reading

theorem Says.leads {e : Expr} {ls : List Lexeme} {t : Term} (h : Says e ls t) :
    ∃ l tail, ls = l :: tail ∧ Leads l := by
  induction h with
  | name hw => exact ⟨_, [], rfl, leads_name hw.not_mem_keywords⟩
  | constant c => exact ⟨_, [], rfl, leads_constant c⟩
  | attr _ _ ih =>
    obtain ⟨l, tail, rfl, hl⟩ := ih
    exact ⟨l, _, rfl, hl⟩
  | subscript _ _ ih =>
    obtain ⟨l, tail, rfl, hl⟩ := ih
    exact ⟨l, _, rfl, hl⟩

theorem Says.term_single {e : Expr} {ls : List Lexeme} {t : Term} (h : Says e ls t) :
    Items.term ⟨[t], false⟩ = t := by
  cases h <;> rfl

/-- Reading goes on after the expression with fewer steps left, by no more than were read. -/
def IsRead (ls : List Lexeme) (t : Term) : Prop :=
  ∀ n rest, NoText rest → callsPerLexeme * ls.length ≤ n →
    ∃ m, n ≤ m + ls.length ∧ (do trailers n (← atom n)) (ls ++ rest) = trailers m t rest

theorem IsRead.expression_run {ls : List Lexeme} {t : Term} (h : IsRead ls t)
    (hleads : ∃ l tail, ls = l :: tail ∧ Leads l) {rest : List Lexeme} (hcloses : Closes rest)
    {n : Nat} (hn : callsPerLexeme * ls.length + 12 ≤ n) :
    expression n (ls ++ rest) = some (t, rest) := by
  obtain ⟨n, rfl⟩ : ∃ k, n = k + 12 := ⟨n - 12, by omega⟩
  obtain ⟨m, hm, hread⟩ := h n rest hcloses.noText (by omega)
  obtain ⟨l, tail, rfl, hl⟩ := hleads
  obtain ⟨m, rfl⟩ : ∃ k, m = k + 1 := ⟨m - 1, by
    simp only [callsPerLexeme, List.length_cons] at hn hm
    omega⟩
  rw [trailers_of_closes hcloses] at hread
  exact Reading.expression_run hl hcloses hread

theorem Says.isRead {e : Expr} {ls : List Lexeme} {t : Term} (h : Says e ls t) : IsRead ls t := by
  induction h with
  | @name w hw =>
    intro n rest _ hn
    obtain ⟨n, rfl⟩ : ∃ k, n = k + 1 := ⟨n - 1, by simp [callsPerLexeme] at hn; omega⟩
    have hleaf := leaf_name hw.not_mem_keywords rest
    exact ⟨n + 1, by omega, bind_run (atom_run (leads_name hw.not_mem_keywords) hleaf n)⟩
  | constant c =>
    intro n rest hrest hn
    obtain ⟨n, rfl⟩ : ∃ k, n = k + 1 := ⟨n - 1, by simp [callsPerLexeme] at hn; omega⟩
    exact ⟨n + 1, by omega, bind_run (atom_run (leads_constant c) (leaf_constant c hrest) n)⟩
  | @attr e ls t key h hkey ih =>
    intro n rest _ hn
    simp only [callsPerLexeme, List.length_append, List.length_cons, List.length_nil] at hn ⊢
    obtain ⟨m, hm, hread⟩ := ih n (.mark "." :: .word key :: rest) (noText_mark _ _)
      (by simp only [callsPerLexeme]; omega)
    obtain ⟨m, rfl⟩ : ∃ k, m = k + 1 := ⟨m - 1, by omega⟩
    refine ⟨m, by omega, ?_⟩
    rw [List.append_assoc]
    refine hread.trans ?_
    rw [trailers, then_run (mark_self "." _), bind_run (identifier_name hkey.not_mem_keywords rest)]
  | @subscript e ls t index ks u h hindex ih ihindex =>
    intro n rest _ hn
    simp only [callsPerLexeme, List.length_append, List.length_cons, List.length_nil] at hn ⊢
    obtain ⟨m, hm, hread⟩ := ih n (.mark "[" :: (ks ++ .mark "]" :: rest)) (noText_mark _ _)
      (by simp only [callsPerLexeme]; omega)
    obtain ⟨m, rfl⟩ : ∃ k, m = k + 5 := ⟨m - 5, by omega⟩
    refine ⟨m + 4, by omega, ?_⟩
    have hexpression : expression m (ks ++ .mark "]" :: rest) = some (u, .mark "]" :: rest) :=
      ihindex.expression_run hindex.leads (.close (by decide) rest)
        (by simp only [callsPerLexeme]; omega)
    have hindices : indices (m + 4) (ks ++ .mark "]" :: rest) =
        some (⟨[u], false⟩, .mark "]" :: rest) := by
      obtain ⟨l, tail, rfl, hl⟩ := hindex.leads
      exact indices_run hl hexpression
    rw [List.append_assoc, List.cons_append, List.append_assoc]
    refine hread.trans ?_
    rw [trailers, else_run (mark_of_ne (by decide) _), then_run (mark_self "[" _),
      bind_run hindices, bind_run (expectMark_self "]" rest)]
    simp only [hindex.term_single]
    rfl

theorem IsRead.ofText?_eq {s : String} {ls : List Lexeme} {t : Term} (h : IsRead ls t)
    (hlexes : Lexes s.toList ls) (hleads : ∃ l tail, ls = l :: tail ∧ Leads l) (depth : Nat) :
    Term.ofText? depth s = some t := by
  have hexpression : expression (callsPerLexeme * (ls.length + 1)) (ls ++ []) = some (t, []) :=
    h.expression_run hleads .nil (by simp only [callsPerLexeme]; omega)
  rw [List.append_nil] at hexpression
  rw [Term.ofText?, hlexes.all depth]
  simp [whole, hexpression]

theorem Says.ofText?_eq {e : Expr} {ls : List Lexeme} {t : Term} (h : Says e ls t) (depth : Nat) :
    Term.ofText? depth e.text = some t :=
  h.isRead.ofText?_eq h.lexes h.leads depth

/-! Calls. -/

inductive SaysArguments :
    List Expr → List (String × Expr) → List (List Lexeme) → List Term → List (String × Term) → Prop
  | nil : SaysArguments [] [] [] [] []
  | keyword {key e ls t named lss ts} : IsName key → Says e ls t →
      SaysArguments [] named lss [] ts →
      SaysArguments [] ((key, e) :: named) ((.word key :: .mark "=" :: ls) :: lss) []
        ((Text.normal key, t) :: ts)
  | constant (c) {es named lss us ts} : SaysArguments es named lss us ts →
      SaysArguments (.constant c :: es) named ([c.lexeme] :: lss) (.literal c.literal :: us) ts

section

variable {f : Expr} {es : List Expr} {named : List (String × Expr)} {ls : List Lexeme}
  {lss : List (List Lexeme)} {t : Term} {us : List Term} {ts : List (String × Term)}

theorem SaysArguments.lexes (h : SaysArguments es named lss us ts) :
    List.Forall₂ Lexes ((Expr.printAll es ++ Expr.printKeywords named).map String.toList) lss := by
  induction h with
  | nil => simp [Expr.printAll, Expr.printKeywords]
  | @keyword key e ls t named lss ts hkey he _ ih =>
    have hassignment : Lexes (key ++ "=" ++ e.text).toList (.word key :: .mark "=" :: ls) := by
      obtain ⟨c, cs, htext, hc⟩ := he.head_text
      have hvalue := he.lexes
      rw [htext] at hvalue
      simpa [htext] using Lexes.assignment hkey.isIdentifier hc hvalue
    exact .cons hassignment ih
  | constant c _ ih => exact .cons (lexes_constant c) ih

theorem length_separated_cons (ls : List Lexeme) (lss : List (List Lexeme)) :
    ls.length + (separated lss).length ≤ (separated (ls :: lss)).length := by
  cases lss <;> simp [separated]

theorem SaysArguments.moreArguments_run (h : SaysArguments es named lss us ts) {n : Nat}
    {isNamed : Bool} {rest : List Lexeme}
    (hread : arguments n isNamed (separated lss ++ .mark ")" :: rest) =
      some ((us, ts), .mark ")" :: rest)) :
    ∃ after, (∀ ls, separated (ls :: lss) ++ .mark ")" :: rest = ls ++ after) ∧ Closes after ∧
      moreArguments (n + 1) isNamed after = some ((us, ts), .mark ")" :: rest) := by
  cases lss with
  | nil =>
    cases h
    refine ⟨.mark ")" :: rest, fun ls => rfl, .close (by decide) rest, ?_⟩
    rw [moreArguments, else_run (mark_of_ne (by decide) rest)]
    rfl
  | cons next lss =>
    refine ⟨.mark "," :: (separated (next :: lss) ++ .mark ")" :: rest), fun ls => ?_,
      .close (by decide) _, ?_⟩
    · simp [separated]
    · rw [moreArguments, then_run (mark_self "," _), hread]

theorem arguments_keyword {key : String} (hkey : IsName key) {n : Nat} {isNamed : Bool}
    {tail after rest : List Lexeme} (hvalue : expression n tail = some (t, after))
    (hmore : moreArguments n true after = some ((us, ts), rest)) :
    arguments (n + 1) isNamed (.word key :: .mark "=" :: tail) =
      some ((us, (Text.normal key, t) :: ts), rest) := by
  have hcontains : keywords.contains key = false := by simpa using hkey.not_mem_keywords
  have hclose : ((Lexeme.word key :: .mark "=" :: tail).head? == some (.mark ")")) = false := rfl
  rw [arguments, bind_run (peek?_run _), hclose, if_neg Bool.false_ne_true, bind_run (get_run _)]
  simp only [hcontains, Bool.not_false, guard_true]
  refine (bind_run (a := ()) rfl).trans ?_
  refine (bind_run (a := ()) rfl).trans ?_
  rw [bind_run hvalue, bind_run hmore]
  rfl

theorem arguments_constant (c : Constant) {n : Nat} {after rest : List Lexeme}
    (hcloses : Closes after)
    (hmore : moreArguments (n + 38) false after = some ((us, ts), rest)) :
    arguments (n + 39) false (c.lexeme :: after) = some ((.literal c.literal :: us, ts), rest) := by
  have hclose : ((c.lexeme :: after).head? == some (.mark ")")) = false := by
    cases c <;> rfl
  have hitem : item (n + 38) (c.lexeme :: after) = some (.literal c.literal, after) := by
    have hc := Says.constant c
    exact item_run (leads_constant c)
      (hc.isRead.expression_run hc.leads hcloses (by simp [callsPerLexeme]))
  rw [arguments, bind_run (peek?_run _), hclose, if_neg Bool.false_ne_true, bind_run (get_run _)]
  generalize hls : c.lexeme :: after = ls at hitem ⊢
  split
  next w after' heq =>
    -- no constant is a name with a value
    obtain ⟨-, rfl⟩ := List.cons.inj hls
    cases hcloses with
    | close hm => simp [closers] at hm
  next =>
    rw [bind_run hitem, bind_run (source?_of_closes hcloses (n + 37))]
    simp only [Bool.not_false, guard_true]
    refine (bind_run (a := ()) rfl).trans ?_
    rw [bind_run hmore]
    rfl

theorem SaysArguments.arguments_run (h : SaysArguments es named lss us ts) :
    ∀ n isNamed rest, (isNamed = true → es = []) →
      callsPerLexeme * (separated lss).length + 40 ≤ n →
      arguments n isNamed (separated lss ++ .mark ")" :: rest) =
        some ((us, ts), .mark ")" :: rest) := by
  induction h with
  | nil =>
    intro n isNamed rest _ hn
    obtain ⟨n, rfl⟩ : ∃ k, n = k + 1 := ⟨n - 1, by omega⟩
    rw [separated, List.nil_append, arguments, bind_run (peek?_run _)]
    rfl
  | @keyword key e ls t named lss ts hkey he h ih =>
    intro n isNamed rest _ hn
    have hlength := length_separated_cons (.word key :: .mark "=" :: ls) lss
    simp only [callsPerLexeme, List.length_cons] at hn hlength
    obtain ⟨n, rfl⟩ : ∃ k, n = k + 2 := ⟨n - 2, by omega⟩
    obtain ⟨after, hafter, hcloses, hmore⟩ :=
      h.moreArguments_run (ih n true rest (fun _ => rfl) (by simp only [callsPerLexeme]; omega))
    have hvalue := he.isRead.expression_run he.leads hcloses (n := n + 1)
      (by simp only [callsPerLexeme]; omega)
    rw [hafter]
    exact arguments_keyword hkey hvalue hmore
  | @constant c es named lss us ts h ih =>
    intro n isNamed rest hnamed hn
    have hlength := length_separated_cons [c.lexeme] lss
    simp only [callsPerLexeme, List.length_cons, List.length_nil] at hn hlength
    obtain ⟨n, rfl⟩ : ∃ k, n = k + 39 := ⟨n - 39, by omega⟩
    cases isNamed with
    | true => simp at hnamed
    | false =>
      have hread := ih (n + 37) false rest (by simp) (by simp only [callsPerLexeme]; omega)
      obtain ⟨after, hafter, hcloses, hmore⟩ := h.moreArguments_run hread
      rw [hafter]
      exact arguments_constant c hcloses hmore

theorem Says.isRead_call (hf : Says f ls t) (h : SaysArguments es named lss us ts) :
    IsRead (ls ++ .mark "(" :: (separated lss ++ [.mark ")"])) (.call t us ts) := by
  intro n rest _ hn
  simp only [callsPerLexeme, List.length_append, List.length_cons, List.length_nil] at hn ⊢
  obtain ⟨m, hm, hread⟩ := hf.isRead n (.mark "(" :: (separated lss ++ .mark ")" :: rest))
    (noText_mark _ _) (by simp only [callsPerLexeme]; omega)
  obtain ⟨m, rfl⟩ : ∃ k, m = k + 1 := ⟨m - 1, by omega⟩
  refine ⟨m, by omega, ?_⟩
  have harguments : arguments m false (separated lss ++ .mark ")" :: rest) =
      some ((us, ts), .mark ")" :: rest) :=
    h.arguments_run m false rest (by simp) (by simp only [callsPerLexeme]; omega)
  rw [List.append_assoc, List.cons_append, List.append_assoc]
  refine hread.trans ?_
  rw [trailers, else_run (mark_of_ne (by decide) _), else_run (mark_of_ne (by decide) _),
    then_run (mark_self "(" _), bind_run harguments]
  exact bind_run (expectMark_self ")" rest)

theorem Says.lexes_call (hf : Says f ls t) (h : SaysArguments es named lss us ts) :
    Lexes (Expr.call f es named).text.toList
      (ls ++ .mark "(" :: (separated lss ++ [.mark ")"])) := by
  have htext : (Expr.call f es named).text.toList = f.text.toList ++ '(' ::
      ([',', ' '].intercalate ((Expr.printAll es ++ Expr.printKeywords named).map String.toList)
        ++ [')']) := by
    rw [Expr.text, Expr.print, hf.print_eq]
    simp
  have hopen : IsBreak '(' := by decide
  have hclose : IsBreak ')' := by decide
  have hend : Lexes [')'] [.mark ")"] := Lexes.nil.bracket (by decide)
  rw [htext]
  exact hf.lexes.append hopen (((Lexes.separated h.lexes).append hclose hend).bracket (by decide))

theorem Says.ofText?_call (hf : Says f ls t) (h : SaysArguments es named lss us ts) (depth : Nat) :
    Term.ofText? depth (Expr.call f es named).text = some (.call t us ts) := by
  obtain ⟨l, tail, rfl, hl⟩ := hf.leads
  exact (hf.isRead_call h).ofText?_eq (hf.lexes_call h) ⟨l, _, rfl, hl⟩ depth

end

end TypedClient.Target
