import TypedClient.Proofs.FieldDefaults
import TypedClient.Proofs.Hints
import TypedClient.Proofs.ReadBack

namespace TypedClient

open Target

namespace Target

def hintWords : List String :=
  ["typing", "datetime", "decimal", "uuid", "pydantic", "Any", "Optional", "date", "time",
   "Decimal", "UUID", "bool", "float", "int", "list", "str", "BaseModel", "Field", "ConfigDict",
   "alias", "default_factory", "populate_by_name"]

theorem isName_of_mem_hintWords {w : String} (h : w ∈ hintWords) :
    IsName w ∧ Text.normal w = w := by
  have hall : ∀ w ∈ hintWords,
      Text.isIdentifier w = true ∧ w ∉ keywords ∧ Text.normal w = w := by
    decide +kernel
  obtain ⟨hidentifier, hkeyword, hnormal⟩ := hall w h
  exact ⟨⟨hidentifier, hkeyword⟩, hnormal⟩

theorem Says.word {w : String} (h : w ∈ hintWords) : Says (.name w) [.word w] (.name w) := by
  obtain ⟨hname, hnormal⟩ := isName_of_mem_hintWords h
  simpa only [hnormal] using Says.name hname

theorem Says.qualified {q n : String} (hq : q ∈ hintWords) (hn : n ∈ hintWords) :
    Says (Render.qualified q n) [.word q, .mark ".", .word n] (.attribute (.name q) n) := by
  obtain ⟨hname, hnormal⟩ := isName_of_mem_hintWords hn
  have hattr := (Says.word hq).attr hname
  rw [hnormal] at hattr
  exact hattr

theorem SaysArguments.word {key : String} {e : Expr} {ls : List Lexeme} {t : Term}
    {named : List (String × Expr)} {lss : List (List Lexeme)} {ts : List (String × Term)}
    (hkey : key ∈ hintWords) (he : Says e ls t) (h : SaysArguments [] named lss [] ts) :
    SaysArguments [] ((key, e) :: named) ((.word key :: .mark "=" :: ls) :: lss) []
      ((key, t) :: ts) := by
  obtain ⟨hname, hnormal⟩ := isName_of_mem_hintWords hkey
  have hkeyword := SaysArguments.keyword hname he h
  rwa [hnormal] at hkeyword

end Target

namespace TypeExpr

def IsLibraryType (name : String) : Prop :=
  (∀ q ∈ moduleOf name, (q, name) ∈ libraryTypes) ∧
    (moduleOf name = none → name ∈ Warning.builtinTypes)

instance : DecidablePred IsLibraryType := fun _ => inferInstanceAs (Decidable (_ ∧ _))

def Reads (t : TypeExpr) : Prop := ∃ ls u, Says t.toTarget ls u ∧ Hint t.meanings u

theorem reads_library {name : String} {kind : Kind} (hkind : kind ≠ .reference)
    (h : IsLibraryType name) : (mk name kind []).Reads := by
  have hwords : (∀ b ∈ Warning.builtinTypes, b ∈ hintWords) ∧
      ∀ entry ∈ libraryTypes, entry.1 ∈ hintWords ∧ entry.2 ∈ hintWords := by
    decide
  have hqualifier : (mk name kind []).qualifier? = moduleOf name :=
    qualifier?_eq_moduleOf hkind
  have hmeanings : (mk name kind []).meanings = [headMeaning (mk name kind [])] := rfl
  rw [Reads, toTarget_leaf, hmeanings, headTarget, headMeaning, hqualifier]
  cases hmodule : moduleOf name with
  | some q =>
    have hq := h.1 q hmodule
    exact ⟨_, _, .qualified (hwords.2 _ hq).1 (hwords.2 _ hq).2, .library hq⟩
  | none =>
    have hb := h.2 hmodule
    have hbuiltin : (mk name kind []).kind ≠ .reference := hkind
    simp only [if_neg hbuiltin]
    exact ⟨_, _, .word (hwords.1 _ hb), .builtin hb⟩

theorem reads_ofPrimitive (kind : String) (format : Option String) :
    (ofPrimitive kind format).Reads := by
  unfold ofPrimitive
  split
  · refine reads_library (by decide) ?_
    unfold stringType
    split <;> decide
  · exact reads_library (by decide) (by decide)
  · refine reads_library (by decide) ?_
    unfold numberType
    split <;> decide
  · exact reads_library (by decide) (by decide)
  · exact reads_library (by decide) (by decide)

def RefersPlainly (t : TypeExpr) : Prop :=
  ∀ r ∈ t.references, IsName r ∧ IsFree (Text.normal r)

instance : DecidablePred RefersPlainly := fun _ => inferInstanceAs (Decidable (∀ _ ∈ _, _))

theorem reads_ofSchema : (s : Schema) → (ofSchema s).RefersPlainly → (ofSchema s).Reads
  | .primitive kind format, _ => reads_ofPrimitive kind format
  | .reference name, h => by
    obtain ⟨hname, hfree⟩ := h name (List.mem_singleton_self name)
    exact ⟨_, _, .name hname, .schema hfree⟩
  | .array item, h => by
    have hmeanings : (ofSchema (.array item)).meanings =
        .builtin "list" :: (ofSchema item).meanings := by
      rw [ofSchema, meanings, meaningsAll, meaningsAll, List.append_nil]
      rfl
    have hitem : (ofSchema item).RefersPlainly := by
      intro r hr
      refine h r (mem_references.2 ?_)
      rw [hmeanings]
      exact List.mem_cons_of_mem _ (mem_references.1 hr)
    obtain ⟨ls, u, hsaid, hhint⟩ := reads_ofSchema item hitem
    rw [Reads, hmeanings]
    exact ⟨_, _, .subscript (.word (by decide)) hsaid, .list hhint⟩
  | .object _ _, _ => reads_library (by decide) (by decide)
  | .untyped, _ => reads_library (by decide) (by decide)

end TypeExpr

namespace Target

variable {late : Bool} {sight : Sight}

theorem Hint.exists_ok {m : Meaning} {t : Term} (h : Hint [m] t) (hm : m.schema? = none)
    (hshows : sight.Shows late m) : ∃ o, Object.ofTerm sight t = .ok o := by
  cases h with
  | builtin hb =>
    rw [Object.ofTerm]
    exact ⟨_, Sight.lookup_builtin hshows hb⟩
  | library hq => exact ⟨_, ofTerm_member hshows (member_libraryTypes hq)⟩
  | schema => cases hm
  | list h => cases h

def Term.Declares (sight : Sight) (t : Term) : Prop :=
  ∃ isRequired sourceName factory,
    Object.ofTerm sight t = .ok (.field isRequired sourceName factory)

theorem exists_declaredField (args : List Object) (keywords : List (String × Object)) :
    ∃ isRequired sourceName factory,
      Object.declaredField args keywords = .field isRequired sourceName factory := by
  unfold Object.declaredField
  dsimp only
  split
  · exact ⟨_, _, _, rfl⟩
  · exact ⟨_, _, _, rfl⟩

theorem declares_call {args : List Term} {keywords : List (String × Term)} {os : List Object}
    {ks : List (String × Object)}
    (hmodule : sight.names.lookup "pydantic" = some (.library "pydantic"))
    (hargs : Object.ofTerms sight args = .ok os)
    (hkeywords : Object.ofKeywords sight keywords = .ok ks) :
    (Term.call (.attribute (.name "pydantic") "Field") args keywords).Declares sight := by
  have hfunction : Object.ofTerm sight (.attribute (.name "pydantic") "Field") =
      .ok (.libraryFunction "pydantic" "Field") := ofTerm_member hmodule rfl
  obtain ⟨isRequired, sourceName, factory, hfield⟩ := exists_declaredField os ks
  refine ⟨isRequired, sourceName, factory, ?_⟩
  rw [Object.ofTerm, hfunction, ← hfield]
  simp only [bind, Except.bind, hargs, hkeywords]
  rfl

end Target

structure Field.Reads (f : Field) : Prop where
  hint : ∃ ls u, Says f.type.toTarget ls u ∧ FieldHint f.type.meanings u
  default : ∃ u, (∀ depth, Term.ofText? depth (Render.fieldDefault f).text = some u) ∧
    ∀ late sight, (∀ m ∈ .imported "pydantic" :: f.type.meanings, Sight.Shows late sight m) →
      u.Declares sight

namespace Render

theorem reads_fieldCall (c : Constant) (source : String) :
    ∃ u, (∀ depth, Term.ofText? depth (fieldCall [.constant c] [] source).text = some u) ∧
      ∀ sight : Sight, sight.names.lookup "pydantic" = some (.library "pydantic") →
        u.Declares sight := by
  have hfunction : Says (qualified "pydantic" "Field") _ _ := .qualified (by decide) (by decide)
  have harguments : SaysArguments [.constant c] [("alias", text source)] _ _ _ :=
    .constant c (.word (by decide) (.constant (.text source)) .nil)
  refine ⟨_, hfunction.ofText?_call harguments, fun sight hmodule => ?_⟩
  cases c <;> exact declares_call hmodule rfl rfl

theorem reads_factory {type : TypeExpr} (htype : type ∈ TypeExpr.zeros) (source : String) :
    ∃ u, (∀ depth, Term.ofText? depth
        (fieldCall [] [("default_factory", type.toTarget)] source).text = some u) ∧
      ∀ late sight, (∀ m ∈ .imported "pydantic" :: type.meanings, Sight.Shows late sight m) →
        u.Declares sight := by
  have hleaf : ∀ t ∈ TypeExpr.zeros, t.Reads ∧ ∃ m, t.meanings = [m] ∧ m.schema? = Option.none := by
    simp only [TypeExpr.zeros, List.forall_mem_cons, List.not_mem_nil, false_imp_iff, implies_true,
      and_true]
    refine ⟨⟨?_, _, rfl, rfl⟩, ⟨?_, _, rfl, rfl⟩, ⟨?_, _, rfl, rfl⟩, ⟨?_, _, rfl, rfl⟩⟩
    all_goals exact TypeExpr.reads_library (by decide) (by decide)
  obtain ⟨⟨ls, t, hsaid, hhint⟩, m, hmeanings, hm⟩ := hleaf type htype
  rw [hmeanings] at hhint ⊢
  have hfunction : Says (qualified "pydantic" "Field") _ _ := .qualified (by decide) (by decide)
  have harguments : SaysArguments [] [("default_factory", type.toTarget), ("alias", text source)]
      _ _ _ :=
    .word (by decide) hsaid (.word (by decide) (.constant (.text source)) .nil)
  refine ⟨_, hfunction.ofText?_call harguments, fun late sight hshows => ?_⟩
  obtain ⟨o, ho⟩ := hhint.exists_ok hm (hshows m (by simp))
  have hmodule : sight.names.lookup "pydantic" = some (.library "pydantic") :=
    hshows (.imported "pydantic") List.mem_cons_self
  have hkeywords : Object.ofKeywords sight
      [("default_factory", t), ("alias", .literal (.text source))] =
        .ok [("default_factory", o), ("alias", .ofText source)] := by
    rw [Object.ofKeywords, ho]
    rfl
  exact declares_call hmodule rfl hkeywords

end Render

namespace Definition

theorem zero_of_kind {s : Schema}
    (h : (TypeExpr.ofSchema s).kind ∈ [.integer, .number, .boolean]) :
    TypeExpr.ofSchema s ∈ TypeExpr.zeros := by
  rcases TypeExpr.ofSchema_cases s with hkind | hany | hzero
  · cases hs : (TypeExpr.ofSchema s).kind <;> simp [hs] at h hkind
  · rw [hany] at h
    simp [TypeExpr.any, TypeExpr.kind] at h
  · exact hzero

theorem reads_field {s : Schema} (hrefers : (TypeExpr.ofSchema s).RefersPlainly)
    (name source : String) (required : Bool) :
    (field name source (.ofSchema s) required).Reads := by
  obtain ⟨ls, u, hsaid, hhint⟩ := TypeExpr.reads_ofSchema s hrefers
  unfold field
  split
  next hnull =>
    obtain rfl : required = false := by
      cases required with
      | false => rfl
      | true => cases hnull
    obtain ⟨t, htext, hdeclares⟩ := Render.reads_fieldCall .none source
    refine ⟨?_, t, htext, fun late sight hshows => hdeclares sight (hshows _ List.mem_cons_self)⟩
    have hwrapper : Says (Render.qualified "typing" "Optional") _ _ :=
      .qualified (by decide) (by decide)
    rw [TypeExpr.toTarget_optional, TypeExpr.meanings_optional]
    exact ⟨_, _, hwrapper.subscript hsaid, .optional hhint⟩
  next =>
    refine ⟨⟨ls, u, ?_⟩, ?_⟩
    · split <;> exact ⟨hsaid, .plain hhint⟩
    · split
      next hkind =>
        obtain ⟨rfl, hmem⟩ : required = false ∧
            (TypeExpr.ofSchema s).kind ∈ [.integer, .number, .boolean] := by
          simpa using hkind
        have hreference : (TypeExpr.ofSchema s).kind ≠ .reference := by
          intro h
          simp [h] at hmem
        have hzero := zero_of_kind hmem
        obtain ⟨n, kind, hleaf, -⟩ := TypeExpr.eq_leaf_of_mem_zeros hzero
        rw [hleaf] at hzero hreference ⊢
        rw [Render.fieldDefault_factory rfl rfl hreference]
        exact Render.reads_factory hzero source
      next =>
        have hdefault : ∃ c : Constant,
            Render.fieldDefault ⟨name, source, .ofSchema s, required, none⟩ =
              Render.fieldCall [.constant c] [] source := by
          cases required with
          | true => exact ⟨.ellipsis, rfl⟩
          | false => exact ⟨.none, rfl⟩
        obtain ⟨c, hc⟩ := hdefault
        obtain ⟨t, htext, hdeclares⟩ := Render.reads_fieldCall c source
        rw [hc]
        exact ⟨t, htext, fun late sight hshows => hdeclares sight (hshows _ List.mem_cons_self)⟩

theorem meanings_subset_field (name source : String) (t : TypeExpr) (required : Bool) :
    t.meanings ⊆ (field name source t required).type.meanings := by
  unfold field
  split
  · rw [TypeExpr.meanings_optional]
    exact List.subset_cons_self _ _
  · split <;> exact List.Subset.refl _

def Reads : Definition → Prop
  | model _ fields => ∀ f ∈ fields, f.Reads
  | typeAlias _ type => type.Reads

theorem reads_ofSchema {name : String} {s : Schema}
    (hrefers : ∀ t ∈ Render.definitionTypes (ofSchema name s), t.RefersPlainly) :
    (ofSchema name s).Reads := by
  cases s with
  | object properties required =>
    rw [ofSchema_object] at hrefers ⊢
    intro f hf
    obtain ⟨q, hq, hfield⟩ := eq_field_of_mem_nameFields hf
    obtain ⟨p, hp, rfl⟩ := List.mem_map.1 hq
    have htype := hrefers f.type (List.mem_map_of_mem hf)
    rw [hfield] at htype ⊢
    refine reads_field (fun r hr => htype r ?_) _ _ _
    exact TypeExpr.mem_references.2 (meanings_subset_field _ _ _ _ (TypeExpr.mem_references.1 hr))
  | _ => exact TypeExpr.reads_ofSchema _ (hrefers _ (List.mem_singleton_self _))

end Definition

end TypedClient
