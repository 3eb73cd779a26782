import TypedClient.Proofs.Extraction
import TypedClient.Proofs.MissingSchemas
import TypedClient.Proofs.Pointer

namespace TypedClient

namespace Text

theorem replaceChar_of_not_mem {c : Char} {cs : List Char} (h : c ∉ cs) (by' : List Char) :
    replaceChar c by' cs = cs := by
  induction cs with
  | nil => rfl
  | cons d cs ih =>
    simp only [List.mem_cons, not_or] at h
    rw [replaceChar_cons_of_ne (Ne.symm h.1), ih h.2]

theorem length_replaceChar_pair (c first second : Char) (cs : List Char) :
    (replaceChar c [first, second] cs).length = cs.length + cs.count c := by
  induction cs with
  | nil => rfl
  | cons d cs ih =>
    by_cases h : d = c
    · subst h
      rw [replaceChar_cons_self, List.count_cons_self, List.length_append, ih]
      simp only [List.length_cons, List.length_nil]
      omega
    · rw [replaceChar_cons_of_ne h, List.count_cons_of_ne h, List.length_cons, ih,
        List.length_cons]
      omega

end Text

namespace Pointer

theorem length_escape (key : String) :
    (escape key).toList.length =
      key.toList.length + key.toList.count '~' +
        (Text.replaceChar '~' ['~', '0'] key.toList).count '/' := by
  rw [escape, String.toList_ofList, Text.length_replaceChar_pair, Text.length_replaceChar_pair]

theorem escape_eq_self_iff {key : String} :
    escape key = key ↔ '~' ∉ key.toList ∧ '/' ∉ key.toList := by
  constructor
  · intro h
    have hlength := length_escape key
    rw [h] at hlength
    have htilde : '~' ∉ key.toList := List.count_eq_zero.1 (by omega)
    have hslash : (Text.replaceChar '~' ['~', '0'] key.toList).count '/' = 0 := by omega
    rw [Text.replaceChar_of_not_mem htilde] at hslash
    exact ⟨htilde, List.count_eq_zero.1 hslash⟩
  · rintro ⟨htilde, hslash⟩
    rw [escape, Text.replaceChar_of_not_mem htilde, Text.replaceChar_of_not_mem hslash,
      String.ofList_toList]

end Pointer

theorem Schema.targetName_ofKeys (above : List String) (key : String) :
    Schema.targetName (Pointer.ofKeys (above ++ [key])) = Pointer.escape key := by
  have hpointer : (Pointer.ofKeys (above ++ [key])).toList =
      ['/'].intercalate (['#'] :: (above ++ [key]).map fun k => (Pointer.escape k).toList) := by
    rw [Pointer.toList_ofKeys]
    cases above <;> simp [List.intercalate]
  have hslash : ∀ token ∈ ['#'] :: (above ++ [key]).map fun k => (Pointer.escape k).toList,
      '/' ∉ token := by
    intro token htoken
    rcases List.mem_cons.1 htoken with rfl | htoken
    · decide
    · obtain ⟨k, -, rfl⟩ := List.mem_map.1 htoken
      exact Pointer.slash_not_mem_escape k
  have hparts : Text.split '/' (Pointer.ofKeys (above ++ [key])) =
      ("#" :: above.map Pointer.escape) ++ [Pointer.escape key] := by
    rw [Text.split, hpointer, Text.splitChars_eq_splitOn,
      List.splitOn_intercalate _ hslash (List.cons_ne_nil _ _)]
    simp [Function.comp_def]
  rw [targetName, hparts, List.getLast?_concat, Option.getD_some]

theorem Value.text_mem_of_lookup {key : String} {entries : List Entry} {v : Value}
    (h : lookup key entries = some v) : (.text key, v) ∈ entries := by
  induction entries with
  | nil => cases h
  | cons entry rest ih =>
    obtain ⟨k, w⟩ := entry
    rw [lookup] at h
    split at h
    next hk =>
      obtain rfl := Option.some.inj h
      rw [hk]
      exact List.mem_cons_self
    next => exact List.mem_cons_of_mem _ (ih h)

theorem Value.LeadsTo.unique {document v w : Value} {keys : List String}
    (hv : document.LeadsTo keys v) (hw : document.LeadsTo keys w) : v = w :=
  Option.some.inj ((Pointer.walk_eq_some_iff.2 hv).symm.trans (Pointer.walk_eq_some_iff.2 hw))

namespace Spec

theorem ofValue_pointing (pointer : String) :
    Schema.ofValue (pointing pointer) = .reference (Schema.targetName pointer) := by
  have hpointer : pointerOf [(.text "$ref", .text pointer)] = some pointer := by
    simp [pointerOf, Value.lookup, Value.text, Value.text?]
  rw [pointing, Schema.ofValue, ← pointerOf, hpointer]

theorem mem_schemas_of_leadsTo {document raw : Value} {key : String} {spec : Spec}
    (hkey : document.LeadsTo ["components", "schemas", key] raw)
    (hspec : Spec.ofDocument document = .ok spec) :
    (key, if raw.isMap then some (Schema.ofValue raw) else none) ∈ spec.schemas := by
  obtain ⟨-, -, -, -, hschemas⟩ := parts_of_ofDocument hspec
  rw [hschemas, Extract.schemas]
  cases hkey with
  | @step components _ _ _ _ _ htop hcomponents hkey =>
  cases hkey with
  | @step schemas _ _ _ _ _ hmiddle hnamed hkey =>
  cases hkey with
  | step hentries hraw hhere =>
  cases hhere
  have hcomponents : document.get? "components" = some components :=
    Option.bind_eq_some_iff.2 ⟨_, htop, hcomponents⟩
  have hnamed : components.get? "schemas" = some schemas :=
    Option.bind_eq_some_iff.2 ⟨_, hmiddle, hnamed⟩
  simp only [hcomponents, hnamed, hentries, Option.bind_eq_bind, Option.bind_some,
    Option.getD_some]
  exact List.mem_filterMap.2 ⟨_, Value.text_mem_of_lookup hraw, rfl⟩

/-- A pointer that is written from the key of a schema leads to that schema's entry, and the module
defines it under its key. A schema given by this pointer is a reference to that definition exactly if
the key has neither a tilde nor a slash. -/
theorem componentReference_iff {document raw : Value} {key : String} {spec : Spec}
    (hkey : document.LeadsTo ["components", "schemas", key] raw)
    (hspec : Spec.ofDocument document = .ok spec) (options : Options) :
    (∀ entries, Pointer.target document ("#/components/schemas/" ++ Pointer.escape key) =
        .ok entries ↔ raw.entries? = some entries) ∧
      (raw.isMap → Definition.ofSchema key (.ofValue raw) ∈ spec.definitions) ∧
      ¬spec.Reports options key ∧
      Schema.ofValue (pointing ("#/components/schemas/" ++ Pointer.escape key)) =
        .reference (Pointer.escape key) ∧
      (Schema.ofValue (pointing ("#/components/schemas/" ++ Pointer.escape key)) =
          .reference key ↔ '~' ∉ key.toList ∧ '/' ∉ key.toList) := by
  have hpointer : "#/components/schemas/" ++ Pointer.escape key =
      Pointer.ofKeys (["components", "schemas"] ++ [key]) := by
    have hcomponents : Pointer.escape "components" = "components" := by decide
    have hschemas : Pointer.escape "schemas" = "schemas" := by decide
    apply String.toList_injective
    simp [Pointer.toList_ofKeys, hcomponents, hschemas]
  have hentry := mem_schemas_of_leadsTo hkey hspec
  have hschema : Schema.ofValue (pointing ("#/components/schemas/" ++ Pointer.escape key)) =
      .reference (Pointer.escape key) := by
    rw [ofValue_pointing, hpointer, Schema.targetName_ofKeys]
  refine ⟨fun entries => ?_, fun hmap => ?_, fun hreports => ?_, hschema, ?_⟩
  · rw [hpointer, Pointer.target_eq_ok, Pointer.keys?_ofKeys (by simp)]
    constructor
    · rintro ⟨keys, hkeys, v, hwalk, hentries⟩
      obtain rfl := Option.some.inj hkeys
      obtain rfl := hkey.unique (Pointer.walk_eq_some_iff.1 hwalk)
      exact hentries
    · intro hentries
      exact ⟨_, rfl, raw, Pointer.walk_eq_some_iff.2 hkey, hentries⟩
  · rw [if_pos hmap] at hentry
    exact List.mem_map.2 ⟨(key, .ofValue raw), List.mem_filterMap.2 ⟨_, hentry, rfl⟩, rfl⟩
  · exact (reports_iff.1 hreports).2 (List.mem_map_of_mem hentry)
  · rw [hschema, Schema.reference.injEq, Pointer.escape_eq_self_iff]

def slashedKey : Value :=
  .map
    [(.text "paths", .map []),
     (.text "components", .map
      [(.text "schemas", .map
        [(.text "a/b", .map [(.text "type", .text "object")]),
         (.text "Pet", pointing "#/components/schemas/a~1b")])])]

theorem componentReference_plain :
    slashedKey.LeadsTo ["components", "schemas", "Pet"] (pointing "#/components/schemas/a~1b") ∧
      (∃ spec, Spec.ofDocument slashedKey = .ok spec) ∧
      Schema.ofValue (pointing "#/components/schemas/Pet") = .reference "Pet" := by
  have hkey : slashedKey.LeadsTo ["components", "schemas", "Pet"]
      (pointing "#/components/schemas/a~1b") :=
    .step rfl rfl (.step rfl rfl (.step rfl rfl .here))
  obtain ⟨spec, hspec⟩ : ∃ spec, Spec.ofDocument slashedKey = .ok spec :=
    Outcome.exists_of_isSome (by decide +kernel)
  have hescape : "#/components/schemas/" ++ Pointer.escape "Pet" = "#/components/schemas/Pet" := by
    decide
  obtain ⟨-, -, -, -, hname⟩ := componentReference_iff hkey hspec {}
  exact ⟨hkey, ⟨spec, hspec⟩, hescape ▸ hname.2 ⟨by decide, by decide⟩⟩

theorem slashedKey_misnamed :
    slashedKey.LeadsTo ["components", "schemas", "a/b"] (.map [(.text "type", .text "object")]) ∧
      "#/components/schemas/" ++ Pointer.escape "a/b" = "#/components/schemas/a~1b" ∧
      Pointer.target slashedKey "#/components/schemas/a~1b" =
        .ok [(.text "type", .text "object")] ∧
      Schema.ofValue (pointing "#/components/schemas/a~1b") ≠ .reference "a/b" ∧
      (Spec.ofDocument slashedKey).toOption.map (·.warnings {}) =
        some [.missingSchemas ["a~1b"]] := by
  refine ⟨.step rfl rfl (.step rfl rfl (.step rfl rfl .here)), by decide, ?_, ?_, ?_⟩
  · exact Pointer.target_eq_ok.2 ⟨["components", "schemas", "a/b"], by decide, _, rfl, rfl⟩
  · rw [ofValue_pointing, Ne, Schema.reference.injEq]
    decide
  · decide +kernel

end Spec

end TypedClient
