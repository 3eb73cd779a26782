import TypedClient.Proofs.BoundNames
import TypedClient.Proofs.Completion
import TypedClient.Proofs.FieldHints
import TypedClient.Target.Imported.Definition

namespace TypedClient

open Target

namespace Target

theorem mem_rebind {names : List (String × Object)} {name : String} {o : Object}
    {entry : String × Object} (h : entry ∈ rebind names name o) :
    entry = (name, o) ∨ entry ∈ names := by
  unfold rebind at h
  split at h
  · obtain ⟨⟨n, p⟩, hmem, rfl⟩ := List.mem_map.1 h
    dsimp only
    split
    next hn => exact .inl (by rw [eq_of_beq hn])
    next => exact .inr hmem
  · rcases List.mem_append.1 h with h | h
    · exact .inr h
    · exact .inl (List.mem_singleton.1 h)

namespace Imported

/-! The body of a class. -/

theorem eq_field_of_isField {o : Object} (h : isField o = true) :
    ∃ isRequired sourceName factory, o = .field isRequired sourceName factory := by
  cases o <;> first | exact ⟨_, _, _, rfl⟩ | cases h

/-- What the class of a model binds: its settings, and the fields that it has declared so far. -/
structure ClassBody (declared : List String) (names : List (String × Object)) : Prop where
  entries : ∀ entry ∈ names, (entry.1 = "model_config" ∧ ∃ settings, entry.2 = .dict settings) ∨
    entry.1 ∈ declared ∧ isField entry.2 = true
  fields : ∀ n ∈ declared, ∃ o, names.lookup n = some o ∧ isField o = true

namespace ClassBody

variable {declared : List String} {names : List (String × Object)}

theorem settings (es : List (Object × Object)) : ClassBody [] [("model_config", .dict es)] where
  entries entry hentry := by
    obtain rfl := List.mem_singleton.1 hentry
    exact .inl ⟨rfl, es, rfl⟩
  fields n hn := absurd hn List.not_mem_nil

theorem declare (h : ClassBody declared names) (n : String) {o : Object} (ho : isField o = true) :
    ClassBody (declared ++ [n]) (rebind names n o) where
  entries entry hentry := by
    rcases mem_rebind hentry with rfl | hentry
    · exact .inr ⟨by simp, ho⟩
    · exact (h.entries entry hentry).imp_right (And.imp_left (List.mem_append_left _))
  fields n' hn' := by
    rw [lookup_rebind]
    split
    next => exact ⟨o, rfl, ho⟩
    next hne =>
      have hmem : n' ∈ declared := by simpa [hne] using hn'
      exact h.fields n' hmem

theorem unbound (h : ClassBody declared names) {k : Meaning} (hk : IsFirm k)
    (hfree : k.key ∉ declared) : names.lookup k.key = none := by
  refine lookup_of_not_mem fun hmem => ?_
  obtain ⟨entry, hentry, hname⟩ := List.mem_map.1 hmem
  rcases h.entries entry hentry with ⟨hsettings, -⟩ | ⟨hfield, -⟩
  · exact hk.key_not_mem (by simp [← hname, hsettings, fixedNames])
  · exact hfree (hname ▸ hfield)

theorem ne_default (h : ClassBody declared names) {late : Bool} {o : Object} (ho : o.IsType late)
    (n : String) : (o == (names.lookup n).getD .null) = false := by
  obtain ⟨hfield, hsettings, hnull⟩ := ho.ne_default
  cases hlookup : names.lookup n with
  | none => exact hnull
  | some p =>
    rcases h.entries _ (mem_of_lookup hlookup) with ⟨-, es, rfl⟩ | ⟨-, hp⟩
    · exact hsettings es
    · obtain ⟨isRequired, sourceName, factory, rfl⟩ := eq_field_of_isField hp
      exact hfield isRequired sourceName factory

theorem privateField?_eq_none (h : ClassBody declared names)
    (hvisible : ∀ n ∈ declared, n.toList.head? ≠ some '_') : privateField? names = none := by
  refine Option.map_eq_none_iff.2 (List.find?_eq_none.2 fun entry hentry => ?_)
  rcases h.entries entry hentry with ⟨-, es, hes⟩ | ⟨hdeclared, -⟩
  · simp [hes, isField]
  · simp [hvisible _ hdeclared]

theorem exists_privateField? (h : ClassBody declared names) {n : String} (hn : n ∈ declared)
    (hprivate : n.toList.head? = some '_') : ∃ n', privateField? names = some n' := by
  obtain ⟨o, ho, hfield⟩ := h.fields n hn
  refine Option.isSome_iff_exists.1 ?_
  rw [privateField?, Option.isSome_map, List.find?_isSome]
  exact ⟨(n, o), mem_of_lookup ho, by simp [hfield, hprivate]⟩

end ClassBody

end Imported

namespace Class

def boundFields (c : Class) : List String := c.declared.map c.bound

theorem mem_putField {fields : List ModelField} {f g : ModelField} (h : g ∈ putField fields f) :
    g = f ∨ g ∈ fields := by
  unfold putField at h
  split at h
  · obtain ⟨g', hg', rfl⟩ := List.mem_map.1 h
    split
    next => exact .inl rfl
    next => exact .inr hg'
  · rcases List.mem_append.1 h with h | h
    · exact .inr h
    · exact .inl (List.mem_singleton.1 h)

theorem exists_member_of_mem_fields {c : Class} {f : ModelField} (h : f ∈ c.fields) :
    ∃ member ∈ c.members, c.field? member = some f := by
  have hfold : ∀ fields acc : List ModelField, f ∈ fields.foldl putField acc →
      f ∈ fields ∨ f ∈ acc := by
    intro fields
    induction fields with
    | nil => exact fun acc h => .inr h
    | cons g rest ih =>
      intro acc h
      rcases ih _ h with h | h
      · exact .inl (List.mem_cons_of_mem _ h)
      · exact (mem_putField h).imp_left fun hg => List.mem_cons.2 (.inl hg)
  exact List.mem_filterMap.1 ((hfold _ _ h).resolve_right List.not_mem_nil)

end Class

end Target

namespace Render

def declaredFields (fields : List Field) : List Field :=
  fields.filter fun f => !(Member.stmt (fieldStatement f)).isRemark

theorem members_modelClass (name : String) (fields : List Field) :
    (modelClass name fields).members =
      .stmt modelConfig :: (declaredFields fields).map fun f => .stmt (fieldStatement f) := by
  rw [Class.members, modelClass, List.filter_cons_of_pos rfl, List.filter_map]
  rfl

theorem declared_modelClass (name : String) (fields : List Field) :
    (modelClass name fields).declared = (declaredFields fields).map (·.name) := by
  rw [Class.declared, members_modelClass, List.filterMap_cons_none rfl]
  induction declaredFields fields with
  | nil => rfl
  | cons f rest ih =>
    have hname : (Member.stmt (fieldStatement f)) =
        .stmt (.annotated f.name f.type.toTarget (fieldDefault f)) := rfl
    rw [List.map_cons, List.map_cons, hname, ← ih]
    exact List.filterMap_cons_some rfl

theorem boundFields_modelClass (name : String) (fields : List Field) :
    (modelClass name fields).boundFields =
      (declaredFields fields).map fun f => (modelClass name fields).bound f.name := by
  simp only [Class.boundFields, declared_modelClass, List.map_map, Function.comp_def]

theorem exists_field_of_mem_fields {name : String} {fields : List Field} {f : ModelField}
    (h : f ∈ (modelClass name fields).fields) : ∃ g ∈ fields, f.hint = g.type.toTarget := by
  obtain ⟨member, hmember, hfield⟩ := Class.exists_member_of_mem_fields h
  rw [members_modelClass] at hmember
  rcases List.mem_cons.1 hmember with rfl | hmember
  · cases hfield
  · obtain ⟨g, hg, rfl⟩ := List.mem_map.1 hmember
    rw [field?_fieldStatement] at hfield
    obtain rfl := Option.some.inj hfield
    exact ⟨g, List.mem_of_mem_filter hg, rfl⟩

end Render

namespace Target.Imported

variable {late : Bool} {sight : Sight} {c : Class}

theorem term_of_reads {e : Expr} {t : Term} (h : ∀ depth, Term.ofText? depth e.text = some t) :
    term e = .ok t := by
  rw [term, h]

theorem runBody_fields {fields : List Field} {declared : List String}
    {names : List (String × Object)} (h : ClassBody declared names)
    (hreads : ∀ f ∈ fields, f.Reads)
    (hshows : ∀ f ∈ fields, ∀ k ∈ .imported "pydantic" :: f.type.meanings,
      IsFirm k ∧ sight.Shows late k ∧ k.key ∉ declared ++ fields.map fun g => c.bound g.name) :
    ∃ names', runBody sight c names (fields.map fun f => .stmt (Render.fieldStatement f)) =
        .ok names' ∧ ClassBody (declared ++ fields.map fun g => c.bound g.name) names' := by
  induction fields generalizing declared names with
  | nil => exact ⟨names, rfl, by simpa using h⟩
  | cons f rest ih =>
    obtain ⟨t, htext, hdeclares⟩ := (hreads f List.mem_cons_self).default
    have hvalue := hdeclares late (sight.within names) fun k hk => by
      obtain ⟨hfirm, hshow, hfree⟩ := hshows f List.mem_cons_self k hk
      refine hshow.within (passes_of_unbound (h.unbound hfirm fun hmem => hfree ?_))
      exact List.mem_append_left _ hmem
    obtain ⟨isRequired, sourceName, factory, hfield⟩ := hvalue
    have happend : declared ++ (f :: rest).map (fun g => c.bound g.name) =
        declared ++ [c.bound f.name] ++ rest.map fun g => c.bound g.name := by
      simp
    have hdeclared := h.declare (c.bound f.name) (o := .field isRequired sourceName factory) rfl
    obtain ⟨names', hrun, hbody⟩ := ih hdeclared
      (fun g hg => hreads g (List.mem_cons_of_mem _ hg))
      (fun g hg k hk => happend ▸ hshows g (List.mem_cons_of_mem _ hg) k hk)
    refine ⟨names', ?_, happend ▸ hbody⟩
    rw [List.map_cons, Render.fieldStatement, runBody, term_of_reads htext]
    exact Outcome.bind_eq_ok.2 ⟨t, rfl, Outcome.bind_eq_ok.2 ⟨_, hfield, hrun⟩⟩

theorem bound_settings (c : Class) : c.bound "model_config" = "model_config" :=
  c.bound_eq (by decide +kernel) (by decide +kernel)

theorem runBody_settings (hmodule : sight.names.lookup "pydantic" = some (.library "pydantic"))
    (rest : List Member) : ∃ settings, runBody sight c [] (.stmt Render.modelConfig :: rest) =
      runBody sight c [("model_config", .dict settings)] rest := by
  have hfunction : Says (Render.qualified "pydantic" "ConfigDict") _ _ :=
    .qualified (by decide) (by decide)
  have harguments : SaysArguments [] [("populate_by_name", .constant .true)] _ _ _ :=
    .word (by decide) (.constant .true) .nil
  have hterm := term_of_reads (hfunction.ofText?_call harguments)
  have hclass : Object.ofTerm (sight.within []) (.attribute (.name "pydantic") "ConfigDict") =
      .ok (.libraryClass "pydantic" "ConfigDict") := ofTerm_member hmodule rfl
  have hvalue : ∃ settings, Object.ofTerm (sight.within [])
      (.call (.attribute (.name "pydantic") "ConfigDict") []
        [("populate_by_name", .literal Constant.true.literal)]) = .ok (.dict settings) := by
    rw [Object.ofTerm, hclass]
    exact ⟨_, rfl⟩
  obtain ⟨settings, hvalue⟩ := hvalue
  have hbound : rebind [] (c.bound "model_config") (.dict settings) =
      [("model_config", .dict settings)] := by
    rw [bound_settings]
    rfl
  refine ⟨settings, ?_⟩
  rw [Render.modelConfig, runBody, hterm, ← hbound]
  change (Object.ofTerm _ _ >>= _) = _
  rw [hvalue]
  rfl

section

variable (name : String) {fields : List Field} (hreads : ∀ f ∈ fields, f.Reads)
include hreads

theorem runBody_modelClass
    (hmodule : sight.names.lookup "pydantic" = some (.library "pydantic"))
    (hshows : ∀ f ∈ fields, ∀ k ∈ .imported "pydantic" :: f.type.meanings,
      IsFirm k ∧ sight.Shows late k ∧ k.key ∉ (Render.modelClass name fields).boundFields) :
    ∃ names, runBody sight (Render.modelClass name fields) []
        (Render.modelClass name fields).members = .ok names ∧
          ClassBody (Render.modelClass name fields).boundFields names := by
  rw [Render.boundFields_modelClass] at hshows ⊢
  rw [Render.members_modelClass]
  obtain ⟨settings, hsettings⟩ := runBody_settings (c := Render.modelClass name fields) hmodule
    ((Render.declaredFields fields).map fun f => .stmt (Render.fieldStatement f))
  rw [hsettings]
  have hdeclared : Render.declaredFields fields ⊆ fields := List.filter_subset_self _
  exact runBody_fields (ClassBody.settings settings) (fun f hf => hreads f (hdeclared hf))
    fun f hf => hshows f (hdeclared hf)

end

end Target.Imported

/-! What the definitions name. -/

namespace Target

def mentions (names : List String) : List String :=
  (names.map Text.normal).filter fun n => !decide (Meaning.IsLibrary n)

theorem mentions_map_name {ms : List Meaning} (hfirm : ∀ k ∈ ms, IsFirm k)
    (hkeys : ∀ k ∈ ms, Text.normal k.name = k.key) :
    mentions (ms.map Meaning.name) = (ms.filterMap Meaning.schema?).map Text.normal := by
  induction ms with
  | nil => rfl
  | cons k rest ih =>
    obtain ⟨hk, hrest⟩ := List.forall_mem_cons.1 hfirm
    obtain ⟨hkey, hkeys⟩ := List.forall_mem_cons.1 hkeys
    have hsplit : mentions ((k :: rest).map Meaning.name) =
        (if Meaning.IsLibrary k.key then [] else [k.key]) ++ mentions (rest.map Meaning.name) := by
      rw [mentions, List.map_cons, List.map_cons, hkey]
      by_cases hlibrary : Meaning.IsLibrary k.key <;> simp [hlibrary, mentions]
    rw [hsplit, ih hrest hkeys]
    cases k with
    | imported q => rw [if_pos (show Meaning.IsLibrary (Meaning.imported q).key from hk)]; rfl
    | builtin b => rw [if_pos (show Meaning.IsLibrary (Meaning.builtin b).key from hk)]; rfl
    | schema r =>
      have hfree : ¬Meaning.IsLibrary (Meaning.schema r).key := IsFree.not_library hk
      rw [if_neg hfree]
      rfl

theorem mentions_toTarget {t : TypeExpr} {u : Term} (h : FieldHint t.meanings u)
    (hfirm : ∀ k ∈ t.meanings, IsFirm k) (hkeys : ∀ k ∈ t.meanings, Text.normal k.name = k.key) :
    mentions t.toTarget.names = u.mention?.toList := by
  rw [TypeExpr.names_toTarget, ← TypeExpr.map_name_meanings, mentions_map_name hfirm hkeys,
    h.mention?_eq]

def Expr.isName : Expr → Bool
  | .name _ => true
  | _ => false

theorem Says.isName_eq {e : Expr} {ls : List Lexeme} {u : Term} (h : Says e ls u) :
    u.isName = e.isName := by
  cases h <;> rfl

end Target

namespace Definition

def entry : Definition → Target.Entry
  | model name fields =>
    ⟨Target.bound name, .model,
      (Render.modelClass name fields).fields.flatMap fun f => mentions f.hint.names⟩
  | typeAlias name type =>
    ⟨Target.bound name, if type.toTarget.isName then .synonym else .compound,
      mentions type.toTarget.names⟩

theorem entry_name_model (name : String) (fields : List Field) :
    (model name fields).entry.name = Target.bound name := by
  rw [entry]

theorem entry_name_typeAlias (name : String) (type : TypeExpr) :
    (typeAlias name type).entry.name = Target.bound name := by
  rw [entry]

theorem title_definition (d : Definition) : (Render.definition d).title = d.entry.name := by
  cases d with
  | model name fields =>
    rw [entry_name_model]
    rfl
  | typeAlias name type =>
    rw [entry_name_typeAlias]
    rfl

def boundFields : Definition → List String
  | model name fields => (Render.modelClass name fields).boundFields
  | typeAlias .. => []

def HasPrivateField (d : Definition) : Prop := ∃ n ∈ d.boundFields, n.toList.head? = some '_'

def IsRefused (before : Set Target.Entry) (d : Definition) : Prop :=
  d.HasPrivateField ∨ d.entry.kind = .model ∧ Target.Entry.ClosesCircle before d.entry

/-- One of the definitions is refused, where those before it are there. -/
def AnyRefused (es : Set Target.Entry) (ds : List Definition) : Prop :=
  ∃ before d after, ds = before ++ d :: after ∧
    d.IsRefused ({e | ∃ d' ∈ before, e = d'.entry} ∪ es)

theorem not_anyRefused_nil {es : Set Target.Entry} : ¬AnyRefused es [] := by
  rintro ⟨before, d, after, heq, -⟩
  simp at heq

theorem anyRefused_cons {es : Set Target.Entry} {d : Definition} {rest : List Definition} :
    AnyRefused es (d :: rest) ↔ d.IsRefused es ∨ AnyRefused (insert d.entry es) rest := by
  have hfirst : ({e | ∃ d' ∈ ([] : List Definition), e = d'.entry} ∪ es) = es := by simp
  have hlater : ∀ before : List Definition, ({e | ∃ d' ∈ d :: before, e = d'.entry} ∪ es) =
      ({e | ∃ d' ∈ before, e = d'.entry} ∪ insert d.entry es) := by
    intro before
    ext e
    simp only [Set.mem_union, Set.mem_ofPred_eq, Set.mem_insert_iff, List.mem_cons,
      exists_eq_or_imp]
    rw [or_assoc, or_left_comm]
  constructor
  · rintro ⟨before, d', after, heq, hrefused⟩
    cases before with
    | nil =>
      obtain ⟨rfl, rfl⟩ := List.cons.inj heq
      exact .inl (hfirst ▸ hrefused)
    | cons d₀ before =>
      obtain ⟨rfl, hrest⟩ := List.cons.inj heq
      exact .inr ⟨before, d', after, hrest, hlater before ▸ hrefused⟩
  · rintro (hrefused | ⟨before, d', after, rfl, hrefused⟩)
    · exact ⟨[], d, rest, rfl, hfirst.symm ▸ hrefused⟩
    · exact ⟨d :: before, d', after, rfl, (hlater before).symm ▸ hrefused⟩

/-- A definition that can be read, is not called like a module, a type of the language or what
modules and classes have of themselves, and binds none of the names that it looks up. -/
structure Fits (known : List Meaning) (d : Definition) : Prop where
  reads : d.Reads
  known : ∀ t ∈ Render.definitionTypes d, t.meanings ⊆ known
  keys : ∀ t ∈ Render.definitionTypes d, ∀ k ∈ t.meanings, Text.normal k.name = k.key
  title : ¬Meaning.IsLibrary d.entry.name
  own : IsOwn d.entry.name
  free : ∀ n ∈ d.boundFields, ∀ t ∈ Render.definitionTypes d,
    ∀ k ∈ .imported "pydantic" :: t.meanings, k.key ≠ n

end Definition

namespace Target.Imported

variable {library : ModelLibrary} {known : List Meaning} {m : Imported}

def Runs (m : Imported) (c : Class) (names : List (String × Object)) : Prop :=
  ∃ ts os, c.bases.mapM term = .ok ts ∧ ts.mapM (Object.ofTerm m.sight) = .ok os ∧
    runBody m.sight c [] c.members = .ok names

theorem addModel_of_runs {c : Class} {names : List (String × Object)} (h : m.Runs c names) :
    m.addModel library c = library.create m c names := by
  obtain ⟨ts, os, hbases, hvalues, hrun⟩ := h
  simp only [addModel, hbases, hvalues, hrun, Outcome.ok_bind]

theorem runs_modelBase (hmodule : m.sight.names.lookup "pydantic" = some (.library "pydantic"))
    {c : Class} (hbases : c.bases = [Render.qualified "pydantic" "BaseModel"])
    {names : List (String × Object)} (hrun : runBody m.sight c [] c.members = .ok names) :
    m.Runs c names := by
  have hbase : Says (Render.qualified "pydantic" "BaseModel") _ _ :=
    .qualified (by decide) (by decide)
  have hterm := term_of_reads hbase.ofText?_eq
  refine ⟨[.attribute (.name "pydantic") "BaseModel"], [.modelBase], ?_, ?_, hrun⟩
  · rw [hbases]
    exact Outcome.mapM_eq_ok.2 (.cons hterm .nil)
  · exact Outcome.mapM_eq_ok.2 (.cons (ofTerm_member hmodule rfl) .nil)

section

variable (hm : m.Whole known) (hpydantic : .imported "pydantic" ∈ known)
include hm

theorem exists_hints {name : String} {fields : List Field}
    (h : (Definition.model name fields).Fits known) :
    ∃ hints, (Render.modelClass name fields).fields.mapM (fun f => term f.hint) = .ok hints ∧
      (∀ t ∈ hints, ∃ f ∈ fields, FieldHint f.type.meanings t) ∧
        (Render.modelClass name fields).entryOf hints = (Definition.model name fields).entry := by
  have hall : ∀ f ∈ (Render.modelClass name fields).fields, ∃ t, term f.hint = .ok t ∧
      (∃ g ∈ fields, FieldHint g.type.meanings t) ∧
        t.mention?.toList = mentions f.hint.names := by
    intro f hf
    obtain ⟨g, hg, hhint⟩ := Render.exists_field_of_mem_fields hf
    obtain ⟨ls, t, hsaid, ht⟩ := (h.reads g hg).hint
    have htype : g.type ∈ Render.definitionTypes (.model name fields) := List.mem_map_of_mem hg
    refine ⟨t, term_of_reads (hhint ▸ hsaid.ofText?_eq), ⟨g, hg, ht⟩, ?_⟩
    rw [hhint, mentions_toTarget ht (fun k hk => hm.firm k (h.known _ htype hk)) (h.keys _ htype)]
  obtain ⟨hints, hterms, hrelated⟩ := Outcome.exists_mapM_eq_ok hall
  refine ⟨hints, hterms, fun t ht => ?_, ?_⟩
  · obtain ⟨f, -, hfield, -⟩ := Outcome.exists_of_mem_right hrelated ht
    exact hfield
  · rw [Class.entryOf, Outcome.flatMap_eq_of_forall₂ (hrelated.imp fun f t hft => hft.2)]
    rfl

include hpydantic

theorem exists_isPlain {name : String} {fields : List Field}
    (h : (Definition.model name fields).Fits known)
    (hfresh : m.names.lookup (Definition.model name fields).entry.name = none) :
    ∃ names hints, m.Runs (Render.modelClass name fields) names ∧
      ClassBody (Render.modelClass name fields).boundFields names ∧
        (Render.modelClass name fields).IsPlain known m names hints ∧
          (Render.modelClass name fields).entryOf hints =
            (Definition.model name fields).entry := by
  have hown : ∀ f ∈ fields, ∀ k ∈ .imported "pydantic" :: f.type.meanings,
      k ∈ known ∧ k.key ∉ (Render.modelClass name fields).boundFields := by
    intro f hf k hk
    have htype : f.type ∈ Render.definitionTypes (.model name fields) := List.mem_map_of_mem hf
    refine ⟨?_, fun hbound => h.free _ hbound _ htype k hk rfl⟩
    rcases List.mem_cons.1 hk with rfl | hk
    · exact hpydantic
    · exact h.known _ htype hk
  have hmodule := hm.shows _ hpydantic
  obtain ⟨names, hrun, hbody⟩ := runBody_modelClass name h.reads hmodule fun f hf k hk =>
    ⟨hm.firm k (hown f hf k hk).1, hm.shows k (hown f hf k hk).1, (hown f hf k hk).2⟩
  obtain ⟨hints, hterms, hfields, hentry⟩ := exists_hints hm h
  refine ⟨names, hints, runs_modelBase hmodule rfl hrun, hbody, ?_, hentry⟩
  have htitle : (Render.modelClass name fields).title = (Definition.model name fields).entry.name :=
    (Definition.model name fields).title_definition
  exact
    { title := htitle ▸ h.title
      own := htitle ▸ h.own
      fresh := htitle ▸ hfresh
      terms := hterms
      reads := by
        intro t ht
        obtain ⟨f, hf, hhint⟩ := hfields t ht
        have htype : f.type ∈ Render.definitionTypes (.model name fields) := List.mem_map_of_mem hf
        refine ⟨_, h.known _ htype, hhint, fun k hk => ?_⟩
        obtain ⟨hknown, hfree⟩ := hown f hf k (List.mem_cons_of_mem _ hk)
        exact hbody.unbound (hm.firm k hknown) hfree
      defaults := fun f _ o ho => hbody.ne_default ho f.name }

theorem add_model (hdocumented : library.Documented) {name : String} {fields : List Field}
    (h : (Definition.model name fields).Fits known)
    (hfresh : m.names.lookup (Definition.model name fields).entry.name = none) :
    ((Definition.model name fields).IsRefused m.entries →
        ∃ e, m.addModel library (Render.modelClass name fields) = .error e ∧
          e.spoilsImport = false) ∧
      (¬(Definition.model name fields).IsRefused m.entries →
        ∃ m', m.addModel library (Render.modelClass name fields) = .ok m' ∧ m'.Whole known ∧
          m'.entries = insert (Definition.model name fields).entry m.entries) := by
  obtain ⟨names, hints, hruns, hbody, hclass, hentry⟩ := exists_isPlain hm hpydantic h hfresh
  rw [addModel_of_runs hruns, ← hentry]
  by_cases hprivate : (Definition.model name fields).HasPrivateField
  · obtain ⟨n, hn, hunderscore⟩ := hprivate
    obtain ⟨n', hn'⟩ := hbody.exists_privateField? hn hunderscore
    refine ⟨fun _ => ⟨_, hdocumented.private_field _ _ hn', rfl⟩, fun hallowed => ?_⟩
    exact absurd (.inl ⟨n, hn, hunderscore⟩) hallowed
  · have hnone : privateField? names = none :=
      hbody.privateField?_eq_none fun n hn hunderscore => hprivate ⟨n, hn, hunderscore⟩
    constructor
    · intro hrefused
      obtain ⟨-, hcircle⟩ := hrefused.resolve_left hprivate
      obtain ⟨n, hn⟩ := hdocumented.circular hm hclass hnone (hentry ▸ hcircle)
      exact ⟨_, hn, rfl⟩
    · intro hallowed
      refine hdocumented.made hm hclass hnone fun hcircle => hallowed (.inr ⟨rfl, ?_⟩)
      exact hentry ▸ hcircle

end

theorem names_add (hdocumented : library.Documented) {m' : Imported} {item : Item}
    (h : m.add library item = .ok m') {n : String} (hn : n ≠ item.title) :
    m'.names.lookup n = m.names.lookup n := by
  obtain ⟨-, o, hnames, -⟩ := add_spec hdocumented.toKeeps h
  rw [hnames, lookup_rebind, if_neg hn]

def pushAlias (m : Imported) (a : AliasState) : Imported := { m with aliases := m.aliases ++ [a] }

theorem entryAt?_pushAlias {a : AliasState} {r : Reference} {e : Entry} :
    (m.pushAlias a).entryAt? r = some e ↔
      m.entryAt? r = some e ∨ r = .alias m.aliases.length ∧ e = a.entry := by
  cases r with
  | model index => simp [entryAt?, pushAlias]
  | «alias» index =>
    simp only [entryAt?, pushAlias, Option.map_eq_some_iff, getElem?_concat_iff,
      Reference.alias.injEq]
    constructor
    · rintro ⟨a', ha' | ⟨hindex, rfl⟩, rfl⟩
      · exact .inl ⟨a', ha', rfl⟩
      · exact .inr ⟨hindex, rfl⟩
    · rintro (⟨a', ha', rfl⟩ | ⟨hindex, rfl⟩)
      · exact ⟨a', .inl ha', rfl⟩
      · exact ⟨a, .inr ⟨hindex, rfl⟩, rfl⟩

theorem Sound.pushAlias (hm : m.Sound false known) {a : AliasState}
    (ha : ∃ ms ⊆ known, Hint ms a.value) : (m.pushAlias a).Sound false known where
  firm := hm.firm
  shows := hm.shows
  own := hm.own
  models := hm.models
  aliases a' ha' := by
    rcases List.mem_append.1 ha' with ha' | ha'
    · exact hm.aliases a' ha'
    · exact List.mem_singleton.1 ha' ▸ ha

theorem exists_alias_term (hm : m.Whole known) {name : String} {type : TypeExpr}
    (h : (Definition.typeAlias name type).Fits known) :
    ∃ t, term type.toTarget = .ok t ∧ (∃ ms ⊆ known, Hint ms t) ∧
      AliasState.entry ⟨Target.bound name, t⟩ = (Definition.typeAlias name type).entry := by
  obtain ⟨ls, t, hsaid, hhint⟩ := h.reads
  have htype : type ∈ Render.definitionTypes (.typeAlias name type) := List.mem_singleton_self _
  have hmentions := mentions_toTarget (.plain hhint)
    (fun k hk => hm.firm k (h.known type htype hk)) (h.keys type htype)
  refine ⟨t, term_of_reads hsaid.ofText?_eq, ⟨_, h.known type htype, hhint⟩, ?_⟩
  rw [AliasState.entry, Definition.entry, hsaid.isName_eq, hmentions]

theorem add_typeAlias (hm : m.Whole known) {name : String} {type : TypeExpr}
    (h : (Definition.typeAlias name type).Fits known)
    (hfresh : m.names.lookup (Definition.typeAlias name type).entry.name = none) :
    ∃ m', m.add library (.typeAlias name type.toTarget) = .ok m' ∧ m'.Whole known ∧
      m'.entries = insert (Definition.typeAlias name type).entry m.entries := by
  obtain ⟨t, hterm, hhint, hentry⟩ := exists_alias_term hm h
  have hname := Definition.entry_name_typeAlias name type
  have hadds : m.Adds
      ((m.pushAlias ⟨Target.bound name, t⟩).bind (Target.bound name)
        (.typeAlias m.aliases.length (Target.bound name)))
      (.alias m.aliases.length) (Definition.typeAlias name type).entry :=
    { fresh := hfresh
      old := fun r e hr => entryAt?_pushAlias.2 (.inl hr)
      new := entryAt?_pushAlias.2 (.inr ⟨rfl, hentry.symm⟩)
      only := fun r e hr => hentry ▸ entryAt?_pushAlias.1 hr
      names := fun n => by rw [hname, lookup_bind]; rfl }
  simp only [add, hterm, Outcome.ok_bind]
  refine ⟨_, rfl, ?_, hadds.entries_eq⟩
  exact
    { toSound := (hm.toSound.pushAlias hhint).bind (hname ▸ h.title) (hname ▸ h.own)
        (.typeAlias _ _)
      bound := hadds.bound hm
      finds := hadds.finds hm
      typed := fun s hs f hf o ho => hadds.types (hm.typed s hs f hf o ho)
      closed := fun s hs hcomplete => hadds.closed hm hs hcomplete }

theorem add_definition (hdocumented : library.Documented) (hm : m.Whole known)
    (hpydantic : .imported "pydantic" ∈ known) {d : Definition} (h : d.Fits known)
    (hfresh : m.names.lookup d.entry.name = none) :
    (d.IsRefused m.entries →
        ∃ e, m.add library (Render.definition d) = .error e ∧ e.spoilsImport = false) ∧
      (¬d.IsRefused m.entries →
        ∃ m', m.add library (Render.definition d) = .ok m' ∧ m'.Whole known ∧
          m'.entries = insert d.entry m.entries) := by
  cases d with
  | model name fields => exact add_model hm hpydantic hdocumented h hfresh
  | typeAlias name type =>
    refine ⟨?_, fun _ => add_typeAlias hm h hfresh⟩
    rintro (⟨n, hn, -⟩ | ⟨hkind, -⟩)
    · cases hn
    · have hmodel : (if type.toTarget.isName then Entry.Kind.synonym else .compound) = .model :=
        hkind
      split at hmodel <;> cases hmodel

theorem add_definitions (hdocumented : library.Documented) (hm : m.Whole known)
    (hpydantic : .imported "pydantic" ∈ known) {ds : List Definition}
    (h : ∀ d ∈ ds, d.Fits known) (hnodup : (ds.map fun d => d.entry.name).Nodup)
    (hfresh : ∀ d ∈ ds, m.names.lookup d.entry.name = none) :
    (Definition.AnyRefused m.entries ds →
        ∃ e, (ds.map Render.definition).foldlM (add library) m = .error e ∧
          e.spoilsImport = false) ∧
      (¬Definition.AnyRefused m.entries ds →
        ∃ m', (ds.map Render.definition).foldlM (add library) m = .ok m' ∧ m'.Whole known) := by
  -- on what is still to be added: the definitions before are the entries of the module
  induction ds generalizing m with
  | nil => exact ⟨fun h => absurd h Definition.not_anyRefused_nil, fun _ => ⟨m, rfl, hm⟩⟩
  | cons d rest ih =>
    rw [List.map_cons, List.foldlM_cons, Definition.anyRefused_cons]
    obtain ⟨hrefused, hadded⟩ := add_definition hdocumented hm hpydantic (h d List.mem_cons_self)
      (hfresh d List.mem_cons_self)
    by_cases hd : d.IsRefused m.entries
    · obtain ⟨e, hadd, hspoils⟩ := hrefused hd
      rw [hadd]
      exact ⟨fun _ => ⟨e, rfl, hspoils⟩, fun hnone => absurd (.inl hd) hnone⟩
    · obtain ⟨m₁, hadd, hm₁, hentries⟩ := hadded hd
      rw [hadd, Outcome.ok_bind, or_iff_right hd, ← hentries]
      obtain ⟨hnew, hnodup⟩ := List.nodup_cons.1 hnodup
      refine ih hm₁ (fun d' hd' => h d' (List.mem_cons_of_mem _ hd')) hnodup fun d' hd' => ?_
      have hne : d'.entry.name ≠ (Render.definition d).title := fun heq =>
        hnew (List.mem_map.2 ⟨d', hd', heq.trans d.title_definition⟩)
      rw [names_add hdocumented hadd hne]
      exact hfresh d' (List.mem_cons_of_mem _ hd')

theorem whole_of_nothing (hmodels : m.models = []) (haliases : m.aliases = [])
    (hfirm : ∀ k ∈ known, IsFirm k)
    (hschema : ∀ r, .schema r ∈ known → m.names.lookup (Text.normal r) = none)
    (hown : ∀ n o, m.names.lookup n = some o → o.isOwn = false)
    (hshows : ∀ k ∈ known, m.sight.Shows false k) : m.Whole known ∧ m.entries = ∅ := by
  have hentry : ∀ r e, m.entryAt? r ≠ some e := by
    intro r e
    cases r with
    | model index => simp [entryAt?, hmodels]
    | «alias» index => simp [entryAt?, haliases]
  have hnone : ∀ s, s ∉ m.models := fun s => hmodels ▸ List.not_mem_nil
  constructor
  · exact
      { firm := hfirm
        shows := hshows
        own := fun n o ho hisOwn => by cases (hown n o ho).symm.trans hisOwn
        aliases := fun a ha => absurd (haliases ▸ ha) List.not_mem_nil
        models := fun s hs => absurd hs (hnone s)
        bound := fun r e h => absurd h (hentry r e)
        finds := fun r hr o ho => by cases (hschema r hr).symm.trans ho
        typed := fun s hs => absurd hs (hnone s)
        closed := fun s hs => absurd hs (hnone s) }
  · refine Set.eq_empty_iff_forall_notMem.2 fun e he => ?_
    obtain ⟨r, h⟩ := he
    exact hentry r e h

theorem add_client (hm : m.Sound false known) {c : Class} (hclient : c.isModel = false)
    (htitle : ¬Meaning.IsLibrary c.title) (hown : IsOwn c.title) :
    (∃ e, m.add library (.classDef c) = .error e ∧ e.spoilsImport = true) ∨
      ∃ m', m.add library (.classDef c) = .ok m' ∧ m'.Sound true known := by
  rw [add, hclient, if_neg Bool.false_ne_true, addClient]
  split
  next => exact .inl ⟨_, rfl, rfl⟩
  next => exact .inr ⟨_, rfl, hm.mono.bind htitle hown (.client c.title rfl)⟩

theorem add_modules (qs : List String) (m : Imported) :
    ∃ m', (qs.map Item.imported).foldlM (add library) m = .ok m' ∧ m'.models = m.models ∧
      m'.aliases = m.aliases ∧ ∀ n, m'.names.lookup n =
        if n ∈ qs then some (.library n) else m.names.lookup n := by
  induction qs generalizing m with
  | nil => exact ⟨m, rfl, rfl, rfl, by simp⟩
  | cons q rest ih =>
    obtain ⟨m', hrest, hmodels, haliases, hlookup⟩ := ih (m.bind q (.library q))
    refine ⟨m', hrest, hmodels, haliases, fun n => ?_⟩
    rw [hlookup, lookup_bind]
    by_cases hn : n = q
    · simp [hn]
    · simp [hn]

end Target.Imported

end TypedClient
