import TypedClient.Proofs.Reference

namespace TypedClient

namespace Text

def replaceChar (c : Char) (by' : List Char) (cs : List Char) : List Char :=
  cs.flatMap fun d => if d = c then by' else [d]

theorem replaceChar_cons_self (c : Char) (by' cs : List Char) :
    replaceChar c by' (c :: cs) = by' ++ replaceChar c by' cs := by
  simp [replaceChar]

theorem replaceChar_cons_of_ne {c d : Char} (h : d ≠ c) (by' cs : List Char) :
    replaceChar c by' (d :: cs) = d :: replaceChar c by' cs := by
  simp [replaceChar, h]

theorem not_mem_replaceChar {c : Char} {by' : List Char} (h : c ∉ by') (cs : List Char) :
    c ∉ replaceChar c by' cs := by
  induction cs with
  | nil => exact List.not_mem_nil
  | cons d cs ih =>
    by_cases hd : d = c
    · subst hd
      simp [replaceChar_cons_self, h, ih]
    · simp [replaceChar_cons_of_ne hd, Ne.symm hd, ih]

theorem replacePair_cons_of_ne {first second by' c : Char} (h : c ≠ first) (cs : List Char) :
    replacePair first second by' (c :: cs) = c :: replacePair first second by' cs := by
  cases cs with
  | nil => rfl
  | cons d cs => rw [replacePair, if_neg (mt And.left h)]

theorem replacePair_cons_of_ne_second {first second by' d : Char} (h : d ≠ second)
    (cs : List Char) :
    replacePair first second by' (first :: d :: cs) =
      first :: replacePair first second by' (d :: cs) := by
  rw [replacePair, if_neg (mt And.right h)]

theorem replacePair_cons_pair (first second by' : Char) (cs : List Char) :
    replacePair first second by' (first :: second :: cs) =
      by' :: replacePair first second by' cs := by
  rw [replacePair, if_pos ⟨rfl, rfl⟩]

theorem splitChars_eq_splitOn (separator : Char) (cs : List Char) :
    splitChars separator cs = cs.splitOn separator := by
  induction cs with
  | nil => rfl
  | cons c cs ih =>
    rw [splitChars, ih]
    simp only [List.splitOn, List.splitOnP_cons_eq_if_modifyHead, beq_iff_eq]
    split
    next => rfl
    next =>
      obtain ⟨piece, pieces, hpieces⟩ :=
        List.exists_cons_of_ne_nil (List.splitOnP_ne_nil (· == separator) cs)
      rw [hpieces]
      rfl

end Text

namespace Pointer

def escape (key : String) : String :=
  String.ofList
    (Text.replaceChar '/' ['~', '1'] (Text.replaceChar '~' ['~', '0'] key.toList))

def ofKeys (keys : List String) : String := "#/" ++ "/".intercalate (keys.map escape)

theorem slash_not_mem_escape (key : String) : '/' ∉ (escape key).toList := by
  rw [escape, String.toList_ofList]
  exact Text.not_mem_replaceChar (by decide) _

theorem replacePair_slash (key : List Char) :
    Text.replacePair '~' '1' '/'
        (Text.replaceChar '/' ['~', '1'] (Text.replaceChar '~' ['~', '0'] key)) =
      Text.replaceChar '~' ['~', '0'] key := by
  induction key with
  | nil => rfl
  | cons c key ih =>
    by_cases htilde : c = '~'
    · subst htilde
      rw [Text.replaceChar_cons_self, List.cons_append, List.cons_append, List.nil_append,
        Text.replaceChar_cons_of_ne (by decide), Text.replaceChar_cons_of_ne (by decide),
        Text.replacePair_cons_of_ne_second (by decide), Text.replacePair_cons_of_ne (by decide),
        ih]
    · rw [Text.replaceChar_cons_of_ne htilde]
      by_cases hslash : c = '/'
      · subst hslash
        rw [Text.replaceChar_cons_self, List.cons_append, List.cons_append, List.nil_append,
          Text.replacePair_cons_pair, ih]
      · rw [Text.replaceChar_cons_of_ne hslash, Text.replacePair_cons_of_ne htilde, ih]

theorem replacePair_tilde (key : List Char) :
    Text.replacePair '~' '0' '~' (Text.replaceChar '~' ['~', '0'] key) = key := by
  induction key with
  | nil => rfl
  | cons c key ih =>
    by_cases h : c = '~'
    · subst h
      rw [Text.replaceChar_cons_self, List.cons_append, List.cons_append, List.nil_append,
        Text.replacePair_cons_pair, ih]
    · rw [Text.replaceChar_cons_of_ne h, Text.replacePair_cons_of_ne h, ih]

theorem decodeKey_escape (key : String) : decodeKey (escape key).toList = key.toList := by
  rw [escape, String.toList_ofList, decodeKey, replacePair_slash, replacePair_tilde]

theorem toList_ofKeys (keys : List String) :
    (ofKeys keys).toList =
      '#' :: '/' :: ['/'].intercalate (keys.map fun key => (escape key).toList) := by
  simp [ofKeys, Function.comp_def]

theorem keys?_ofKeys {keys : List String} (h : keys ≠ []) : keys? (ofKeys keys) = some keys := by
  have hslash : ∀ token ∈ keys.map fun key => (escape key).toList, '/' ∉ token := by
    intro token htoken
    obtain ⟨key, -, rfl⟩ := List.mem_map.1 htoken
    exact slash_not_mem_escape key
  have hne : (keys.map fun key => (escape key).toList) ≠ [] := by simpa using h
  rw [keys?, toList_ofKeys]
  change some _ = some keys
  rw [Text.splitChars_eq_splitOn, List.splitOn_intercalate _ hslash hne, List.map_map]
  simp [Function.comp_def, decodeKey_escape]

end Pointer

namespace Value

/-- Key by key from a value to another: each step goes through an object that has the key. -/
inductive LeadsTo : Value → List String → Value → Prop
  | here {v : Value} : LeadsTo v [] v
  | step {u v w : Value} {key : String} {rest : List String} {entries : List Entry} :
      v.entries? = some entries → lookup key entries = some u → LeadsTo u rest w →
        LeadsTo v (key :: rest) w

def StopsAt (v : Value) (keys : List String) : Prop :=
  ∃ before key after u, keys = before ++ key :: after ∧ v.LeadsTo before u ∧
    (u.entries? = none ∨ ∃ entries, u.entries? = some entries ∧ lookup key entries = none)

end Value

namespace Pointer

open Value (LeadsTo StopsAt)

theorem walk_eq_some_iff {keys : List String} {v w : Value} :
    walk keys v = some w ↔ v.LeadsTo keys w := by
  constructor
  · intro h
    induction keys generalizing v with
    | nil =>
      obtain rfl := Option.some.inj h
      exact .here
    | cons key rest ih =>
      obtain ⟨u, hget, hwalk⟩ := Option.bind_eq_some_iff.1 h
      obtain ⟨entries, hentries, hlookup⟩ := Option.bind_eq_some_iff.1 hget
      exact .step hentries hlookup (ih hwalk)
  · intro h
    induction h with
    | here => rfl
    | step hentries hlookup _ ih =>
      exact Option.bind_eq_some_iff.2
        ⟨_, Option.bind_eq_some_iff.2 ⟨_, hentries, hlookup⟩, ih⟩

theorem walk_eq_none_iff {keys : List String} {v : Value} :
    walk keys v = none ↔ v.StopsAt keys := by
  induction keys generalizing v with
  | nil =>
    constructor
    · rintro ⟨⟩
    · rintro ⟨before, key, after, u, hkeys, -⟩
      simp at hkeys
  | cons key rest ih =>
    constructor
    · intro h
      cases hentries : v.entries? with
      | none => exact ⟨[], key, rest, v, rfl, .here, .inl hentries⟩
      | some entries =>
        cases hlookup : Value.lookup key entries with
        | none => exact ⟨[], key, rest, v, rfl, .here, .inr ⟨entries, hentries, hlookup⟩⟩
        | some u =>
          have hget : v.get? key = some u := Option.bind_eq_some_iff.2 ⟨entries, hentries, hlookup⟩
          rw [walk, hget] at h
          obtain ⟨before, key', after, w, rfl, hleads, hstop⟩ := ih.1 h
          exact ⟨key :: before, key', after, w, rfl, .step hentries hlookup hleads, hstop⟩
    · rintro ⟨before, key', after, w, hkeys, hleads, hstop⟩
      cases hleads with
      | here =>
        obtain ⟨rfl, rfl⟩ := List.cons.inj hkeys
        have hget : v.get? key = none := by
          rcases hstop with hnone | ⟨entries, hentries, hlookup⟩
          · simp [Value.get?, hnone]
          · simp [Value.get?, hentries, hlookup]
        rw [walk, hget]
        rfl
      | step hentries hlookup hleads =>
        obtain ⟨rfl, rfl⟩ := List.cons.inj hkeys
        have hget : v.get? key = some _ := Option.bind_eq_some_iff.2 ⟨_, hentries, hlookup⟩
        rw [walk, hget]
        exact ih.2 ⟨_, key', after, w, rfl, hleads, hstop⟩

/-- The pointer that is written from keys gives the object to which they lead. It cannot be resolved
exactly if they stop on the way, and points at no object exactly if they lead to something else. -/
theorem target_ofKeys (document : Value) {keys : List String} (hne : keys ≠ []) :
    (∀ entries, target document (ofKeys keys) = .ok entries ↔
        ∃ v, document.LeadsTo keys v ∧ v.entries? = some entries) ∧
      (target document (ofKeys keys) = .error (.unresolvable (ofKeys keys)) ↔
        document.StopsAt keys) ∧
      (target document (ofKeys keys) = .error (.notAnObject (ofKeys keys)) ↔
        ∃ v, document.LeadsTo keys v ∧ v.entries? = none) ∧
      (ReferenceError.unresolvable (ofKeys keys)).message =
        "Unresolvable reference: " ++ ofKeys keys ∧
      (ReferenceError.notAnObject (ofKeys keys)).message =
        "Reference does not point at an object: " ++ ofKeys keys := by
  have hkeys := keys?_ofKeys hne
  refine ⟨fun entries => ?_, ?_, ?_, rfl, rfl⟩
  · rw [target_eq_ok]
    simp [hkeys, walk_eq_some_iff]
  · rw [target_eq_error, ← walk_eq_none_iff]
    simp [hkeys]
  · rw [target_eq_error]
    simp [hkeys, walk_eq_some_iff]

theorem target_ofKeys_escaped :
    ["a/b", "~1", ""] ≠ [] ∧ ofKeys ["a/b", "~1", ""] = "#/a~1b/~01/" ∧
      target (.map [(.text "a/b", .map [(.text "~1", .map [(.text "", .map [])])])])
        "#/a~1b/~01/" = .ok [] := by
  have hne : ["a/b", "~1", ""] ≠ [] := by decide
  have hpointer : ofKeys ["a/b", "~1", ""] = "#/a~1b/~01/" := by decide
  refine ⟨hne, hpointer, hpointer ▸ ((target_ofKeys _ hne).1 []).2 ⟨.map [], ?_, rfl⟩⟩
  exact .step rfl rfl (.step rfl rfl (.step rfl rfl .here))

end Pointer

end TypedClient
