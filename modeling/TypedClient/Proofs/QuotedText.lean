import Mathlib.Tactic.IntervalCases
import TypedClient.Target.Term.Lexeme
import TypedClient.Text.Quoted

namespace TypedClient

namespace Text

theorem not_isHalf_toNat (c : Char) : isHalf c.toNat = false := by
  rw [Bool.eq_false_iff, Ne, isHalf_iff]
  have hvalid : c.toNat < 0xd800 ∨ 0xdfff < c.toNat ∧ c.toNat < 0x110000 := c.valid
  omega

theorem codePoint_lt (c : Char) : codePoint c < 0x110000 := by
  have hvalid : c.toNat < 0xd800 ∨ 0xdfff < c.toNat ∧ c.toNat < 0x110000 := c.valid
  unfold codePoint
  split <;> omega

theorem ofCodePoint_codePoint (c : Char) : ofCodePoint (codePoint c) = c := by
  unfold codePoint
  split
  next hhalf =>
    have hbounds := isHalf_iff.1 hhalf
    rw [ofCodePoint, if_pos hhalf, Nat.sub_add_cancel (by omega), Char.ofNat_toNat]
  next => rw [ofCodePoint, not_isHalf_toNat, if_neg Bool.false_ne_true, Char.ofNat_toNat]

theorem length_hexDigits {width n : Nat} (hwidth : 0 < width) (hn : n < 16 ^ width) :
    (hexDigits width n).length = width := by
  have hlength := (Nat.length_toDigits_le_iff (by decide) hwidth).2 hn
  simp only [hexDigits, List.length_append, List.length_replicate]
  omega

theorem ofDigits_append (base : Nat) (ds es : List Nat) :
    ofDigits base (ds ++ es) = es.foldl (· * base + ·) (ofDigits base ds) := by
  rw [ofDigits, List.foldl_append, ofDigits]

end Text

namespace Target.Lexeme

open Text

theorem digitIn?_digitChar {d : Nat} (h : d < 16) : digitIn? 16 d.digitChar = some d := by
  interval_cases d <;> rfl

theorem mapM_toDigits (n : Nat) :
    ∃ ds, (Nat.toDigits 16 n).mapM (digitIn? 16) = some ds ∧ ofDigits 16 ds = n := by
  induction n using Nat.strongRecOn with
  | ind n ih =>
    rw [Nat.toDigits_eq_if (by decide)]
    split
    next h => exact ⟨[n], by simp [digitIn?_digitChar h], by simp [ofDigits]⟩
    next h =>
      obtain ⟨ds, hread, hvalue⟩ := ih (n / 16) (by omega)
      have hlast := digitIn?_digitChar (Nat.mod_lt n (by decide : 16 > 0))
      refine ⟨ds ++ [n % 16], by simp [List.mapM_append, hread, hlast], ?_⟩
      rw [ofDigits_append, hvalue]
      exact Nat.div_add_mod' n 16

theorem mapM_replicate_zero (k : Nat) :
    (List.replicate k '0').mapM (digitIn? 16) = some (List.replicate k 0) := by
  induction k with
  | zero => rfl
  | succ k ih =>
    have hzero : digitIn? 16 '0' = some 0 := rfl
    simp [List.replicate_succ, List.mapM_cons, ih, hzero]

theorem ofDigits_replicate_zero (base k : Nat) : ofDigits base (List.replicate k 0) = 0 := by
  induction k with
  | zero => rfl
  | succ k ih => simpa [List.replicate_succ, ofDigits] using ih

theorem mapM_hexDigits (width n : Nat) :
    ∃ ds, (hexDigits width n).mapM (digitIn? 16) = some ds ∧ ofDigits 16 ds = n := by
  obtain ⟨ds, hread, hvalue⟩ := mapM_toDigits n
  refine ⟨List.replicate (width - (Nat.toDigits 16 n).length) 0 ++ ds, ?_, ?_⟩
  · simp [hexDigits, List.mapM_append, mapM_replicate_zero, hread]
  · rw [ofDigits_append, ofDigits_replicate_zero]
    exact hvalue

theorem length_of_mapM {f : α → Option β} :
    ∀ {xs : List α} {ys : List β}, xs.mapM f = some ys → ys.length = xs.length
  | [], _, h => by
    obtain rfl : [] = _ := Option.some.inj h
    rfl
  | x :: xs, _, h => by
    obtain ⟨y, -, ys, hys, rfl⟩ : ∃ y, f x = some y ∧ ∃ ys, xs.mapM f = some ys ∧ y :: ys = _ := by
      simpa [List.mapM_cons, Option.bind_eq_some_iff] using h
    simp [length_of_mapM hys]

theorem escape_hexDigits {letter : Char} {width n : Nat} (rest : List Char)
    (hescapes : escapes.lookup letter = none) (hletter : codeLength? false letter = some width)
    (hwidth : 0 < width) (hn : n < 16 ^ width) (hcode : n < 0x110000) :
    escape false letter (hexDigits width n ++ rest) = some ([ofCodePoint n], rest) := by
  obtain ⟨ds, hread, hvalue⟩ := mapM_hexDigits width n
  have hlength := length_hexDigits hwidth hn
  have hdigits : ds.length = width := (length_of_mapM hread).trans hlength
  simp only [escape, hescapes, hletter, List.take_left' hlength, List.drop_left' hlength, hread]
  simp [hvalue, hdigits, hcode]

structure IsImage (quote : Char) (image : List Char) (c : Char) : Prop where
  passed : ∀ rest,
    untilQuote [quote] (image ++ rest) =
      (untilQuote [quote] rest).map fun (body, after) => (image ++ body, after)
  unescaped : ∀ n rest, (image ++ rest).length ≤ n →
    ∃ m, rest.length ≤ m ∧ unescape false n (image ++ rest) =
      (unescape false m rest).map (c :: ·)
  unbroken : '\r' ∉ image

structure Stands (quote c : Char) : Prop where
  ne_backslash : c ≠ '\\'
  ne_feed : c ≠ '\n'
  ne_return : c ≠ '\r'
  ne_quote : c ≠ quote

theorem untilQuote_cons {quote c : Char} (h : Stands quote c) (rest : List Char) :
    untilQuote [quote] (c :: rest) =
      (untilQuote [quote] rest).map fun (body, after) => (c :: body, after) := by
  have hquote : [quote].isPrefixOf (c :: rest) = false := by
    simp [List.isPrefixOf, h.ne_quote.symm]
  rw [untilQuote.eq_def]
  split
  next heq => simp at heq
  next heq => exact absurd (List.cons.inj heq).1 h.ne_backslash
  next heq =>
    obtain ⟨rfl, rfl⟩ := List.cons.inj heq
    simp [hquote, h.ne_feed]

theorem untilQuote_append {quote : Char} {cs : List Char} (h : ∀ c ∈ cs, Stands quote c)
    (rest : List Char) :
    untilQuote [quote] (cs ++ rest) =
      (untilQuote [quote] rest).map fun (body, after) => (cs ++ body, after) := by
  induction cs with
  | nil => simp
  | cons c cs ih =>
    rw [List.cons_append, untilQuote_cons (h c (by simp)), ih fun d hd => h d (by simp [hd])]
    simp [Function.comp_def]

theorem untilQuote_escaped (quote c : Char) (rest : List Char) :
    untilQuote [quote] ('\\' :: c :: rest) =
      (untilQuote [quote] rest).map fun (body, after) => ('\\' :: c :: body, after) := by
  rw [untilQuote]

theorem IsImage.of_stands {quote c : Char} (h : Stands quote c) : IsImage quote [c] c where
  passed := untilQuote_cons h
  unescaped n rest hn := by
    obtain ⟨n, rfl⟩ : ∃ k, n = k + 1 := ⟨n - 1, by simp at hn; omega⟩
    refine ⟨n, by simpa using hn, ?_⟩
    rw [List.singleton_append, unescape.eq_def]
    split
    next heq => simp at heq
    next heq => simp at heq
    next heq => exact absurd (List.cons.inj heq).1 h.ne_backslash
    next heq hcons =>
      obtain ⟨rfl, rfl⟩ := List.cons.inj hcons
      obtain rfl := Nat.succ.inj heq
      simp [Option.map_eq_bind]
  unbroken := by simpa using h.ne_return.symm

theorem unescape_escaped {c image : Char} {rest after : List Char}
    (h : escape false c rest = some ([image], after)) (n : Nat) :
    unescape false (n + 1) ('\\' :: c :: rest) = (unescape false n after).map (image :: ·) := by
  rw [unescape, h]
  simp [Option.map_eq_bind]

theorem IsImage.of_escape {quote letter c : Char} {taken : List Char} (hletter : letter ≠ '\r')
    (hstands : ∀ d ∈ taken, Stands quote d)
    (hescape : ∀ rest, escape false letter (taken ++ rest) = some ([c], rest)) :
    IsImage quote ('\\' :: letter :: taken) c where
  passed rest := by
    rw [List.cons_append, List.cons_append, untilQuote_escaped, untilQuote_append hstands,
      Option.map_map]
    rfl
  unescaped n rest hn := by
    obtain ⟨n, rfl⟩ : ∃ k, n = k + 1 := ⟨n - 1, by simp at hn; omega⟩
    exact ⟨n, by simp at hn; omega, unescape_escaped (hescape rest) n⟩
  unbroken := by
    simp only [List.mem_cons, not_or]
    exact ⟨by decide, hletter.symm, fun h => (hstands _ h).ne_return rfl⟩

theorem IsImage.of_lookup {quote letter c : Char} (h : escapes.lookup letter = some c) :
    IsImage quote ['\\', letter] c := by
  refine .of_escape ?_ (by simp) fun rest => by simp [escape, h]
  rintro rfl
  cases h

theorem stands_of_mem_hexDigits {quote : Char} (hquote : digitIn? 16 quote = none)
    {width n : Nat} {c : Char} (hc : c ∈ hexDigits width n) : Stands quote c := by
  obtain ⟨ds, hread, -⟩ := mapM_hexDigits width n
  have hdigit : (digitIn? 16 c).isSome := by
    generalize hexDigits width n = cs at hc hread
    clear hquote
    induction cs generalizing ds with
    | nil => simp at hc
    | cons d cs ih =>
      obtain ⟨v, hv, vs, hvs, -⟩ :
          ∃ v, digitIn? 16 d = some v ∧ ∃ vs, cs.mapM (digitIn? 16) = some vs ∧ v :: vs = ds := by
        simpa [List.mapM_cons, Option.bind_eq_some_iff] using hread
      rcases List.mem_cons.1 hc with rfl | hc
      · simp [hv]
      · exact ih vs hc hvs
  have hne : ∀ d, digitIn? 16 d = none → c ≠ d := by
    rintro d hd rfl
    simp [hd] at hdigit
  exact ⟨hne _ rfl, hne _ rfl, hne _ rfl, hne _ hquote⟩

theorem IsImage.of_hexDigits {quote letter c : Char} {width : Nat}
    (hquote : digitIn? 16 quote = none) (hescapes : escapes.lookup letter = none)
    (hletter : codeLength? false letter = some width) (hwidth : 0 < width)
    (hn : codePoint c < 16 ^ width) :
    IsImage quote ('\\' :: letter :: hexDigits width (codePoint c)) c := by
  refine .of_escape ?_ (fun _ => stands_of_mem_hexDigits hquote) fun rest => ?_
  · rintro rfl
    simp [codeLength?] at hletter
  · rw [escape_hexDigits rest hescapes hletter hwidth hn (codePoint_lt c), ofCodePoint_codePoint]

theorem isImage_escapeCode {quote : Char} (hquote : digitIn? 16 quote = none) (c : Char) :
    IsImage quote (escapeCode c) c := by
  simp only [escapeCode]
  split_ifs with hshort hlong
  · exact .of_hexDigits hquote rfl rfl (by decide) hshort
  · exact .of_hexDigits hquote rfl rfl (by decide) hlong
  · have hlt := codePoint_lt c
    exact .of_hexDigits hquote rfl rfl (by decide) (by omega)

theorem isImage_escapeChar {quote c : Char} (hquote : digitIn? 16 quote = none) (hc : c ≠ quote) :
    IsImage quote (escapeChar c) c := by
  unfold escapeChar
  split_ifs with hbackslash hfeed hreturn htab
  · subst hbackslash
    exact .of_lookup rfl
  · subst hfeed
    exact .of_lookup rfl
  · subst hreturn
    exact .of_lookup rfl
  · subst htab
    exact .of_lookup rfl
  · exact .of_stands ⟨hbackslash, hfeed, hreturn, hc⟩
  · exact isImage_escapeCode hquote c

theorem plainQuote_eq (cs : List Char) :
    plainQuote cs = singleQuote ∨ plainQuote cs = doubleQuote := by
  unfold plainQuote
  split
  · exact .inr rfl
  · exact .inl rfl

theorem isImage_quoted (cs : List Char) (c : Char) :
    IsImage (plainQuote cs) (if c = plainQuote cs then ['\\', c] else escapeChar c) c := by
  split
  next h =>
    have hlookup : escapes.lookup c = some c := by
      rcases plainQuote_eq cs with hquote | hquote <;> rw [h, hquote] <;> rfl
    exact .of_lookup hlookup
  next h =>
    refine isImage_escapeChar ?_ h
    rcases plainQuote_eq cs with hquote | hquote <;> rw [hquote] <;> rfl

section

variable {quote : Char} {image : Char → List Char} (h : ∀ c, IsImage quote (image c) c)
include h

theorem untilQuote_flatMap (cs rest : List Char) :
    untilQuote [quote] (cs.flatMap image ++ rest) =
      (untilQuote [quote] rest).map fun (body, after) => (cs.flatMap image ++ body, after) := by
  induction cs with
  | nil => simp
  | cons c cs ih =>
    rw [List.flatMap_cons, List.append_assoc, (h c).passed, ih]
    simp [Function.comp_def]

theorem unbroken_flatMap (cs : List Char) : '\r' ∉ cs.flatMap image := by
  simp only [List.mem_flatMap, not_exists, not_and]
  exact fun c _ => (h c).unbroken

theorem unescape_flatMap (cs : List Char) :
    ∀ n, (cs.flatMap image).length ≤ n → unescape false n (cs.flatMap image) = some cs := by
  induction cs with
  | nil =>
    intro n _
    cases n <;> rfl
  | cons c cs ih =>
    intro n hn
    obtain ⟨m, hm, hread⟩ := (h c).unescaped n (cs.flatMap image) hn
    rw [List.flatMap_cons, hread, ih m hm, Option.map_some]

end

theorem plainQuote_ne_backslash (cs : List Char) : plainQuote cs ≠ '\\' := by
  rcases plainQuote_eq cs with h | h <;> rw [h] <;> decide

theorem untilQuote_quote {quote : Char} (hquote : quote ≠ '\\') (rest : List Char) :
    untilQuote [quote] (quote :: rest) = some ([], rest) := by
  rw [untilQuote.eq_def]
  split
  next heq => simp at heq
  next heq => exact absurd (List.cons.inj heq).1 hquote
  next heq =>
    obtain ⟨rfl, rfl⟩ := List.cons.inj heq
    simp [List.isPrefixOf]

theorem untilQuote_quotedBody (cs rest : List Char) :
    untilQuote [plainQuote cs] (quotedBody cs ++ plainQuote cs :: rest) =
      some (quotedBody cs, rest) := by
  rw [quotedBody, untilQuote_flatMap (isImage_quoted cs),
    untilQuote_quote (plainQuote_ne_backslash cs)]
  simp

theorem textValue_quotedBody (cs : List Char) :
    textValue ⟨false, false, false⟩ (quotedBody cs) = some (.text (String.ofList cs)) := by
  have hunescape : unescape false (quotedBody cs).length (quotedBody cs) = some cs :=
    unescape_flatMap (isImage_quoted cs) cs _ le_rfl
  simp [textValue, hunescape]

theorem quotedText_of_ne {form : TextForm} {quote : Char} {rest : List Char}
    (h : ∀ after, rest ≠ quote :: quote :: after) :
    quotedText form quote rest = do
      let (body, rest) ← untilQuote [quote] rest
      return (← textValue form body, rest) := by
  match rest, h with
  | [], _ => rfl
  | [_], _ => rfl
  | q :: q' :: after, h =>
    have hne : ¬(q = quote ∧ q' = quote) := by
      rintro ⟨rfl, rfl⟩
      exact h after rfl
    simp only [quotedText, if_neg hne]

theorem head?_quotedBody_ne (cs : List Char) : (quotedBody cs).head? ≠ some (plainQuote cs) := by
  intro hhead
  obtain ⟨body, hbody⟩ : ∃ body, quotedBody cs = plainQuote cs :: body := by
    cases hcs : quotedBody cs with
    | nil => simp [hcs] at hhead
    | cons c body => exact ⟨body, by simpa [hcs] using hhead⟩
  -- a quote at the start would end the text
  have huntil := untilQuote_quotedBody cs []
  rw [hbody, List.cons_append, untilQuote_quote (plainQuote_ne_backslash cs)] at huntil
  simp at huntil

theorem quotedText_quotedBody (cs : List Char) {rest : List Char}
    (hrest : rest.head? ≠ some (plainQuote cs)) :
    quotedText ⟨false, false, false⟩ (plainQuote cs) (quotedBody cs ++ plainQuote cs :: rest) =
      some (.text (String.ofList cs), rest) := by
  have hne : ∀ after,
      quotedBody cs ++ plainQuote cs :: rest ≠ plainQuote cs :: plainQuote cs :: after := by
    intro after heq
    have hhead := head?_quotedBody_ne cs
    cases hcs : quotedBody cs with
    | nil =>
      rw [hcs, List.nil_append, List.cons.injEq] at heq
      simp [heq.2] at hrest
    | cons c body =>
      rw [hcs, List.cons_append, List.cons.injEq] at heq
      simp [hcs, heq.1] at hhead
  rw [quotedText_of_ne hne, untilQuote_quotedBody]
  simp [textValue_quotedBody]

end Target.Lexeme

end TypedClient
