import TypedClient.PathTemplate

/-!
Splitting a path and writing its pieces undo each other, also when the placeholders are renamed in
between.
-/

namespace TypedClient.PathTemplate

def IsName (name : String) : Prop := name ≠ "" ∧ '{' ∉ name.toList ∧ '}' ∉ name.toList

def Opens (literal : List Char) : Prop :=
  ∀ rest, splitFrom [] none (literal ++ '{' :: rest) = splitFrom literal (some []) rest

/-- The lists of pieces that paths are split into, one without pieces for the empty path. -/
inductive Canonical : List Piece → Prop
  | nil : Canonical []
  | literal {s : String} : splitFrom [] none s.toList = [⟨s, none⟩] → Canonical [⟨s, none⟩]
  | placeholder {s name : String} {rest : List Piece} :
      Opens s.toList → IsName name → Canonical rest → Canonical (⟨s, some name⟩ :: rest)

def pending (opened : Option (List Char)) : List Char := (opened.map ('{' :: ·)).getD []

theorem splitFrom_some_append (literal acc : List Char) {name : List Char} (rest : List Char)
    (hopen : '{' ∉ name) (hclose : '}' ∉ name) :
    splitFrom literal (some acc) (name ++ rest) = splitFrom literal (some (acc ++ name)) rest := by
  induction name generalizing acc with
  | nil => simp
  | cons c name ih =>
    simp only [List.mem_cons, not_or] at hopen hclose
    rw [List.cons_append, splitFrom, if_neg (Ne.symm hopen.1), if_neg (Ne.symm hclose.1),
      ih _ hopen.2 hclose.2, List.append_assoc, List.singleton_append]

def Reached (literal : List Char) : Option (List Char) → Prop
  | none => ∀ rest, splitFrom [] none (literal ++ rest) = splitFrom literal none rest
  | some name => Opens literal ∧ '{' ∉ name ∧ '}' ∉ name

theorem Reached.resume {literal : List Char} {opened : Option (List Char)}
    (h : Reached literal opened) (rest : List Char) :
    splitFrom [] none (literal ++ pending opened ++ rest) = splitFrom literal opened rest := by
  cases opened with
  | none => simpa [pending] using h rest
  | some name =>
    obtain ⟨hopens, hopen, hclose⟩ := h
    simp only [pending, Option.map_some, Option.getD_some, List.append_assoc, List.cons_append]
    rw [hopens, splitFrom_some_append _ _ _ hopen hclose, List.nil_append]

theorem Reached.opens {literal : List Char} (h : Reached literal none) :
    Reached literal (some []) := by
  refine ⟨fun rest => ?_, List.not_mem_nil, List.not_mem_nil⟩
  have hresume := h.resume ('{' :: rest)
  simpa [pending, splitFrom] using hresume

theorem Reached.push {literal : List Char} {c : Char} (h : Reached literal none) (hc : c ≠ '{') :
    Reached (literal ++ [c]) none := by
  intro rest
  have hresume := h.resume (c :: rest)
  simpa [pending, splitFrom, hc] using hresume

theorem Reached.closeEmpty {literal : List Char} {name : List Char}
    (h : Reached literal (some name)) (hname : name.isEmpty) :
    Reached (literal ++ ['{', '}']) none := by
  intro rest
  have hresume := h.resume ('}' :: rest)
  obtain rfl := List.isEmpty_iff.1 hname
  simpa [pending, splitFrom] using hresume

theorem Reached.reopen {literal : List Char} {name : List Char}
    (h : Reached literal (some name)) : Reached (literal ++ '{' :: name) (some []) := by
  refine ⟨fun rest => ?_, List.not_mem_nil, List.not_mem_nil⟩
  have hresume := h.resume ('{' :: rest)
  simpa [pending, splitFrom] using hresume

theorem isName_ofList {name : List Char} (hne : ¬name.isEmpty) (hopen : '{' ∉ name)
    (hclose : '}' ∉ name) : IsName (String.ofList name) := by
  refine ⟨fun h => hne ?_, by simpa using hopen, by simpa using hclose⟩
  have hnil := congrArg String.toList h
  simpa using hnil

theorem canonical_splitFrom {literal : List Char} {opened : Option (List Char)} (cs : List Char)
    (h : Reached literal opened) : Canonical (splitFrom literal opened cs) := by
  -- the state of the scan is that after the text it keeps, whatever came before a placeholder
  induction literal, opened, cs using splitFrom.induct with
  | case1 literal opened hnil =>
    rw [splitFrom, hnil]
    exact .nil
  | case2 literal opened hne =>
    have hresume := h.resume []
    rw [List.append_nil] at hresume
    cases hrest : literal ++ pending opened with
    | nil => exact absurd hrest hne
    | cons c rest =>
      rw [hrest] at hresume
      have hlast : splitFrom literal opened [] = [⟨String.ofList (c :: rest), none⟩] := by
        simp only [splitFrom, ← pending.eq_1, hrest]
      rw [hlast] at hresume ⊢
      exact .literal (by simpa using hresume)
  | case3 literal rest ih =>
    rw [splitFrom, if_pos rfl]
    exact ih h.opens
  | case4 literal c rest hc ih =>
    rw [splitFrom, if_neg hc]
    exact ih (h.push hc)
  | case5 literal rest name ih =>
    rw [splitFrom, if_pos rfl]
    exact ih h.reopen
  | case6 literal rest name hname hne ih =>
    rw [splitFrom, if_neg hne, if_pos rfl, if_pos hname]
    exact ih (h.closeEmpty hname)
  | case7 literal rest name hname hne ih =>
    rw [splitFrom, if_neg hne, if_pos rfl, if_neg hname]
    obtain ⟨hopens, hopen, hclose⟩ := h
    refine .placeholder ?_ (isName_ofList hname hopen hclose) (ih fun rest => rfl)
    simpa using hopens
  | case8 literal c rest name hopen hclose ih =>
    rw [splitFrom, if_neg hopen, if_neg hclose]
    refine ih ⟨h.1, ?_, ?_⟩
    · simp [h.2.1, Ne.symm hopen]
    · simp [h.2.2, Ne.symm hclose]

def written (pieces : List Piece) : List Char := pieces.flatMap (·.render.toList)

theorem toList_render_some (s name : String) :
    (Piece.mk s (some name)).render.toList = s.toList ++ '{' :: (name.toList ++ ['}']) := by
  simp [Piece.render]

theorem splitFrom_written {pieces : List Piece} (h : Canonical pieces) :
    splitFrom [] none (written pieces) = pieces := by
  induction h with
  | nil => rfl
  | literal hs => simpa [written, Piece.render] using hs
  | @placeholder s name rest hopens hname hrest ih =>
    obtain ⟨hne, hopen, hclose⟩ := hname
    have hempty : ¬name.toList.isEmpty := by simpa using hne
    rw [written, List.flatMap_cons, toList_render_some, ← written]
    simp only [List.append_assoc, List.cons_append, List.nil_append]
    rw [hopens, splitFrom_some_append _ _ _ hopen hclose, List.nil_append, splitFrom,
      if_neg (by decide), if_pos rfl, if_neg hempty, ih]
    simp

theorem written_splitFrom (literal : List Char) (opened : Option (List Char)) (cs : List Char) :
    written (splitFrom literal opened cs) = literal ++ pending opened ++ cs := by
  induction literal, opened, cs using splitFrom.induct with
  | case1 literal opened hnil =>
    rw [splitFrom, hnil, List.append_nil]
    exact hnil.symm
  | case2 literal opened hne =>
    cases hrest : literal ++ pending opened with
    | nil => exact absurd hrest hne
    | cons c rest =>
      have hlast : splitFrom literal opened [] = [⟨String.ofList (c :: rest), none⟩] := by
        simp only [splitFrom, ← pending.eq_1, hrest]
      simp [hlast, written, Piece.render]
  | case3 literal rest ih =>
    rw [splitFrom, if_pos rfl, ih]
    simp [pending]
  | case4 literal c rest hc ih =>
    rw [splitFrom, if_neg hc, ih]
    simp [pending]
  | case5 literal rest name ih =>
    rw [splitFrom, if_pos rfl, ih]
    simp [pending]
  | case6 literal rest name hname hne ih =>
    obtain rfl := List.isEmpty_iff.1 hname
    rw [splitFrom, if_neg hne, if_pos rfl, if_pos hname, ih]
    simp [pending]
  | case7 literal rest name hname hne ih =>
    rw [splitFrom, if_neg hne, if_pos rfl, if_neg hname, written, List.flatMap_cons, ← written, ih]
    simp [Piece.render, pending]
  | case8 literal c rest name hopen hclose ih =>
    rw [splitFrom, if_neg hopen, if_neg hclose, ih]
    simp [pending]

theorem toList_join_render (pieces : List Piece) :
    (String.join (pieces.map Piece.render)).toList = written pieces := by
  simp [written, List.flatMap_map]

theorem splitFrom_eq_nil {path : String} (h : splitFrom [] none path.toList = []) : path = "" := by
  have hwritten := written_splitFrom [] none path.toList
  rw [h] at hwritten
  exact String.toList_injective (by simpa [written, pending] using hwritten.symm)

theorem split_empty : split "" = [⟨"", none⟩] := rfl

theorem split_of_ne_empty {path : String} (h : path ≠ "") :
    split path = splitFrom [] none path.toList := by
  unfold split
  split
  next hnil => exact absurd (splitFrom_eq_nil hnil) h
  next => rfl

theorem canonical_split {path : String} (h : path ≠ "") : Canonical (split path) := by
  rw [split_of_ne_empty h]
  exact canonical_splitFrom path.toList fun rest => rfl

theorem join_render_split (path : String) : String.join ((split path).map Piece.render) = path := by
  by_cases h : path = ""
  · subst h
    rfl
  · apply String.toList_injective
    rw [toList_join_render, split_of_ne_empty h, written_splitFrom]
    simp [pending]

theorem Canonical.isName {pieces : List Piece} (h : Canonical pieces) {piece : Piece}
    (hmem : piece ∈ pieces) {name : String} (hname : piece.placeholder? = some name) :
    IsName name := by
  induction h with
  | nil => simp at hmem
  | literal =>
    obtain rfl := List.mem_singleton.1 hmem
    simp at hname
  | placeholder _ hisName _ ih =>
    rcases List.mem_cons.1 hmem with rfl | hmem
    · obtain rfl := Option.some.inj hname
      exact hisName
    · exact ih hmem

theorem isName_of_mem_split {path : String} {piece : Piece} (hmem : piece ∈ split path)
    {name : String} (hname : piece.placeholder? = some name) : IsName name := by
  by_cases h : path = ""
  · rw [h, split_empty] at hmem
    obtain rfl := List.mem_singleton.1 hmem
    simp at hname
  · exact (canonical_split h).isName hmem hname

def Piece.rename (newName : String → String) (piece : Piece) : Piece :=
  { piece with placeholder? := piece.placeholder?.map newName }

theorem Canonical.rename {newName : String → String} {pieces : List Piece} (h : Canonical pieces)
    (hnew : ∀ piece ∈ pieces, ∀ name, piece.placeholder? = some name → IsName (newName name)) :
    Canonical (pieces.map (Piece.rename newName)) := by
  induction h with
  | nil => exact .nil
  | literal hs => exact .literal hs
  | placeholder hopens _ _ ih =>
    refine .placeholder hopens (hnew _ List.mem_cons_self _ rfl) (ih fun piece hmem => ?_)
    exact hnew piece (List.mem_cons_of_mem _ hmem)

theorem rename_eq (newName : String → String) (path : String) :
    rename newName path =
      String.join (((split path).map (Piece.rename newName)).map Piece.render) := by
  rw [rename, List.map_map]
  rfl

theorem split_rename (newName : String → String) (path : String)
    (hnew : ∀ piece ∈ split path, ∀ name, piece.placeholder? = some name →
      IsName (newName name)) :
    split (rename newName path) = (split path).map (Piece.rename newName) := by
  by_cases h : path = ""
  · subst h
    rfl
  · have hsplit := splitFrom_written ((canonical_split h).rename hnew)
    rw [← toList_join_render, ← rename_eq] at hsplit
    have hne : rename newName path ≠ "" := by
      intro hempty
      rw [hempty] at hsplit
      have hnil : split path = [] := List.map_eq_nil_iff.1 hsplit.symm
      rw [split_of_ne_empty h] at hnil
      exact h (splitFrom_eq_nil hnil)
    rw [split_of_ne_empty hne, hsplit]

def HasGroup (text : List Char) : Prop :=
  ∃ before name after, IsName name ∧ text = before ++ '{' :: (name.toList ++ '}' :: after)

theorem HasGroup.append {text : List Char} (h : HasGroup text) (rest : List Char) :
    HasGroup (text ++ rest) := by
  obtain ⟨before, name, after, hname, rfl⟩ := h
  exact ⟨before, name, after ++ rest, hname, by simp⟩

theorem exists_placeholder_of_opened (literal : List Char) {name : String} (after : List Char)
    (hname : IsName name) :
    ∃ piece ∈ splitFrom literal (some []) (name.toList ++ '}' :: after),
      piece.placeholder?.isSome := by
  obtain ⟨hne, hopen, hclose⟩ := hname
  have hempty : ¬name.toList.isEmpty := by simpa using hne
  rw [splitFrom_some_append _ _ _ hopen hclose, List.nil_append, splitFrom, if_neg (by decide),
    if_pos rfl, if_neg hempty]
  exact ⟨_, List.mem_cons_self, rfl⟩

theorem exists_placeholder_of_group (literal : List Char) (opened : Option (List Char))
    {text : List Char} (h : HasGroup text) :
    ∃ piece ∈ splitFrom literal opened text, piece.placeholder?.isSome := by
  obtain ⟨before, name, after, hname, rfl⟩ := h
  -- the scan moves from state to state over the text before the group, and may end a piece there
  induction before generalizing literal opened with
  | nil =>
    cases opened with
    | none =>
      rw [List.nil_append, splitFrom, if_pos rfl]
      exact exists_placeholder_of_opened literal after hname
    | some kept =>
      rw [List.nil_append, splitFrom, if_pos rfl]
      exact exists_placeholder_of_opened _ after hname
  | cons c before ih =>
    cases opened with
    | none =>
      rw [List.cons_append, splitFrom]
      split <;> exact ih _ _
    | some kept =>
      rw [List.cons_append, splitFrom]
      split
      next => exact ih _ _
      next =>
        split
        next =>
          split
          next => exact ih _ _
          next => exact ⟨_, List.mem_cons_self, rfl⟩
        next => exact ih _ _

theorem Opens.not_hasGroup {literal : List Char} (h : Opens literal) : ¬HasGroup literal := by
  intro hgroup
  obtain ⟨piece, hmem, hsome⟩ := exists_placeholder_of_group [] none (hgroup.append ['{'])
  rw [h [], splitFrom] at hmem
  cases literal with
  | nil =>
    obtain rfl := List.mem_singleton.1 hmem
    cases hsome
  | cons c rest =>
    obtain rfl := List.mem_singleton.1 hmem
    cases hsome

theorem Canonical.not_hasGroup {pieces : List Piece} (h : Canonical pieces) {piece : Piece}
    (hmem : piece ∈ pieces) : ¬HasGroup piece.literal.toList := by
  induction h with
  | nil => cases hmem
  | literal hs =>
    obtain rfl := List.mem_singleton.1 hmem
    intro hgroup
    obtain ⟨piece, hpiece, hsome⟩ := exists_placeholder_of_group [] none hgroup
    rw [hs, List.mem_singleton] at hpiece
    subst hpiece
    cases hsome
  | placeholder hopens _ _ ih =>
    rcases List.mem_cons.1 hmem with rfl | hmem
    · exact hopens.not_hasGroup
    · exact ih hmem

theorem Canonical.isSome_of_mem_dropLast {pieces : List Piece} (h : Canonical pieces)
    {piece : Piece} (hmem : piece ∈ pieces.dropLast) : piece.placeholder?.isSome := by
  induction h with
  | nil => cases hmem
  | literal => cases hmem
  | @placeholder s name rest _ _ _ ih =>
    cases rest with
    | nil => cases hmem
    | cons next rest =>
      rcases List.mem_cons.1 hmem with rfl | hmem
      · rfl
      · exact ih hmem

/-- The pieces of a path write it again; their names are names, no literal text holds another, and
only the last piece can lack one. New names take the places of the old. -/
theorem split_exact (path : String) :
    String.join ((split path).map Piece.render) = path ∧
      (∀ piece ∈ split path,
        ¬HasGroup piece.literal.toList ∧ ∀ name ∈ piece.placeholder?, IsName name) ∧
      (∀ piece ∈ (split path).dropLast, piece.placeholder?.isSome) ∧
      ∀ names : String → Option String, (∀ p, ∀ name ∈ names p, IsName name) →
        split (rename (fun p => (names p).getD p) path) =
          (split path).map (Piece.rename fun p => (names p).getD p) := by
  have hempty : ¬HasGroup "".toList := by
    rintro ⟨before, name, after, -, heq⟩
    simp at heq
  refine ⟨join_render_split path, fun piece hmem => ⟨?_, fun name hname => ?_⟩,
    fun piece hmem => ?_, fun names hnames => ?_⟩
  · by_cases h : path = ""
    · rw [h, split_empty, List.mem_singleton] at hmem
      rw [hmem]
      exact hempty
    · exact (canonical_split h).not_hasGroup hmem
  · exact isName_of_mem_split hmem hname
  · by_cases h : path = ""
    · rw [h] at hmem
      cases hmem
    · exact (canonical_split h).isSome_of_mem_dropLast hmem
  · refine split_rename _ path fun piece hmem name hname => ?_
    have hold : IsName name := isName_of_mem_split hmem hname
    cases hnew : names name with
    | none => exact hold
    | some new => exact hnames name new hnew

theorem split_exact_renamed :
    (∀ p, ∀ name ∈ [("Id", "id")].lookup p, IsName name) ∧
      split (rename (fun p => ([("Id", "id")].lookup p).getD p) "/a/\x7bId\x7d/\x7b\x7bx\x7d") =
        [⟨"/a/", some "id"⟩, ⟨"/\x7b", some "x"⟩] := by
  have hnames : ∀ p, ∀ name ∈ [("Id", "id")].lookup p, IsName name := by
    intro p name hname
    rw [List.lookup_cons] at hname
    split at hname
    next =>
      obtain rfl := Option.some.inj hname
      exact ⟨by decide, by decide, by decide⟩
    next => cases hname
  obtain ⟨-, -, -, hsplit⟩ := split_exact "/a/\x7bId\x7d/\x7b\x7bx\x7d"
  exact ⟨hnames, (hsplit _ hnames).trans (by decide)⟩

def Piece.fill (value? : String → Option String) (piece : Piece) : String :=
  match piece.placeholder? with
  | none => piece.literal
  | some name => piece.literal ++ (value? name).getD ("\x7b" ++ name ++ "\x7d")

def fill (value? : String → Option String) (path : String) : String :=
  String.join ((split path).map (Piece.fill value?))

end TypedClient.PathTemplate
