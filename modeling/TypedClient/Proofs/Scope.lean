import TypedClient.Proofs.Imports
import TypedClient.Proofs.Lookups
import TypedClient.Proofs.MissingSchemas
import TypedClient.Target.Builtin

/-!
What the names in a generated module are found to be when they are looked up, and when that is what
they are meant for.
-/

namespace TypedClient

open Target

namespace Target

inductive Binding
  | local
  | item (item : Item)
  | builtin

namespace Module

def lastItem? (m : Module) (name : String) : Option Item :=
  m.items.reverse.find? fun item => item.title = name

def resolve (m : Module) (l : Lookup) : Option Binding :=
  if l.name ∈ l.locals then some .local
  else
    match m.lastItem? l.name with
    | some item => some (.item item)
    | none => (builtin? l.name).map fun _ => .builtin

theorem resolve_eq_item {m : Module} {l : Lookup} {item : Item} :
    m.resolve l = some (.item item) ↔ l.name ∉ l.locals ∧ m.lastItem? l.name = some item := by
  unfold resolve
  split
  next h => simp [h]
  next h => split <;> simp_all

theorem resolve_eq_builtin {m : Module} {l : Lookup} :
    m.resolve l = some .builtin ↔
      l.name ∉ l.locals ∧ m.lastItem? l.name = none ∧ (builtin? l.name).isSome := by
  unfold resolve
  split
  next h => simp [h]
  next h => split <;> simp_all [Option.isSome_iff_exists]

end Module

end Target

namespace Spec

def lastDefinition? (spec : Spec) (name : String) : Option Definition :=
  spec.definitions.reverse.find? (·.name = name)

def lastBound? (spec : Spec) (name : String) : Option Definition :=
  spec.definitions.reverse.find? fun d => Target.bound d.name = name

def Resolves (spec : Spec) (options : Options) (u : Use) : Prop :=
  match u.meaning? with
  | none => (spec.module options).resolve u.lookup = some .local
  | some (.imported module) =>
    (spec.module options).resolve u.lookup = some (.item (.imported module))
  | some (.builtin _) => (spec.module options).resolve u.lookup = some .builtin
  | some (.schema name) =>
    ∀ d, spec.lastDefinition? name = some d →
      (spec.module options).resolve u.lookup = some (.item (Render.definition d))

def Defines (spec : Spec) (m : Meaning) : Prop :=
  ∀ name ∈ m.schema?, name ∈ spec.definitions.map Definition.name

instance (spec : Spec) : DecidablePred spec.Defines :=
  fun _ => inferInstanceAs (Decidable (∀ name ∈ _, _))

/-- Nothing else of the module is bound to the name of what is meant. -/
structure Keeps (spec : Spec) (options : Options) (m : Meaning) : Prop where
  client : Target.bound m.name ≠ Target.bound options.className
  definitions : ∀ d ∈ spec.lastBound? (Target.bound m.name), d.name = m.name

/-- The name is looked up as what is meant is bound, and nothing takes its place. -/
structure Finds (spec : Spec) (options : Options) (u : Use) (m : Meaning) : Prop where
  not_local : u.name ∉ u.locals
  name_eq : u.name = Target.bound m.name
  keeps : spec.Keeps options m

end Spec

/-! The names of libraries and builtin types are bound as they are written. -/

namespace Meaning

def IsLibrary (name : String) : Prop := name ∈ Warning.moduleNames ++ Warning.builtinTypes

theorem isLibrary_of_known {m : Meaning} {references : List String} (h : m.Known references)
    (hm : m.schema? = none) : IsLibrary m.name := by
  have hmodules : ∀ q ∈ typeModules, q ∈ Warning.moduleNames ++ Warning.builtinTypes := by decide
  cases m with
  | imported module => exact hmodules module h
  | builtin type => exact List.mem_append_right _ h
  | schema name => cases hm

theorem isLibrary_of_provides {spec : Spec} {m : Meaning} (h : spec.Provides m)
    (hm : m.schema? = none) : IsLibrary m.name := by
  cases m with
  | imported module => exact List.mem_append_left _ (spec.imports_subset_moduleNames h)
  | builtin type => exact List.mem_append_right _ h
  | schema name => cases hm

theorem IsLibrary.bound {name : String} (h : IsLibrary name) :
    Target.bound name = name ∧ isHidden name = false := by
  have hall : ∀ name ∈ Warning.moduleNames ++ Warning.builtinTypes,
      Target.bound name = name ∧ isHidden name = false := by
    decide +kernel
  exact hall name h

theorem IsLibrary.bound_class {name : String} (h : IsLibrary name) (c : Target.Class) :
    c.bound name = name :=
  c.bound_eq h.bound.1 h.bound.2

end Meaning

theorem Target.Class.bound_fixed (c : Target.Class) :
    ∀ name ∈ ["model_config", "self", "_path", "_query"], c.bound name = name := by
  have hall : ∀ name ∈ ["model_config", "self", "_path", "_query"],
      Target.bound name = name ∧ isHidden name = false := by
    decide +kernel
  exact fun name hname => c.bound_eq (hall name hname).1 (hall name hname).2

namespace Spec

variable {spec : Spec} {options : Options}

/-! What names are found to be in the whole module. -/

theorem title_definition (d : Definition) : (Render.definition d).title = Target.bound d.name := by
  cases d <;> rfl

theorem name_eq_of_definition_eq {d d' : Definition}
    (h : Render.definition d = Render.definition d') : d.name = d'.name := by
  cases d <;> cases d'
  · exact congrArg Target.Class.name (Item.classDef.inj h)
  · cases h
  · cases h
  · exact (Item.typeAlias.inj h).1

theorem definition_ne_client (d : Definition) :
    Render.definition d ≠ .classDef (spec.client options) := by
  cases d with
  | model name fields =>
    intro h
    have hbases := congrArg Target.Class.bases (Item.classDef.inj h)
    cases hbases
  | typeAlias name type => exact fun h => nomatch h

theorem lastItem?_module (spec : Spec) (options : Options) (name : String) :
    (spec.module options).lastItem? name =
      ((if Target.bound options.className = name then some (.classDef (spec.client options))
        else none).or
        (((spec.lastBound? name).map Render.definition).or
          ((if name ∈ Render.imports spec.definitions spec.plans then some (.imported name)
            else none).or
            (if "annotations" = name then some .lateAnnotations else none)))) := by
  have hdefinitions : (spec.definitions.map Render.definition).reverse.find?
      (fun item => item.title = name) = (spec.lastBound? name).map Render.definition := by
    have htitle : ((fun item : Item => decide (item.title = name)) ∘ Render.definition) =
        fun d => decide (Target.bound d.name = name) :=
      funext fun d => by rw [Function.comp_apply, title_definition]
    rw [← List.map_reverse, List.find?_map, htitle]
    rfl
  have himports : ∀ modules : List String,
      (modules.map Item.imported).reverse.find? (fun item => item.title = name) =
        if name ∈ modules then some (.imported name) else none := by
    intro modules
    have hreverse : name ∈ modules ↔ name ∈ modules.reverse := List.mem_reverse.symm
    simp only [← List.map_reverse, hreverse]
    induction modules.reverse with
    | nil => rfl
    | cons q rest ih =>
      by_cases hq : q = name
      · simp [Item.title, hq]
      · simpa [Item.title, hq, Ne.symm hq] using ih
  have hclient : (Item.classDef (Render.clientClass options.className spec.plans)).title =
      Target.bound options.className := rfl
  rw [Module.lastItem?, module, Render.module]
  simp only [List.reverse_append, List.reverse_cons, List.find?_append, hdefinitions, himports,
    List.reverse_nil, List.nil_append, List.find?_cons, List.find?_nil, hclient, client]
  by_cases hclass : Target.bound options.className = name
  · simp [hclass]
  · by_cases hlate : "annotations" = name <;> simp [Item.title, hclass, hlate]

theorem not_mem_reservedNames (h : spec.warnings options = []) {name : String}
    (hname : name ∈ spec.definitions.map Definition.name) : name ∉ reservedNames options :=
  (warnings_eq_nil_iff.1 h).2.1 name (mem_schemaNames.2 (.inr hname))

theorem name_mem_of_find? {p : Definition → Bool} {d : Definition}
    (hd : spec.definitions.reverse.find? p = some d) :
    d.name ∈ spec.definitions.map Definition.name :=
  List.mem_map_of_mem (List.mem_reverse.1 (List.mem_of_find?_eq_some hd))

theorem name_mem_of_lastDefinition? {name : String} {d : Definition}
    (hd : spec.lastDefinition? name = some d) : name ∈ spec.definitions.map Definition.name := by
  obtain rfl : d.name = name := by simpa using List.find?_some hd
  exact name_mem_of_find? hd

theorem lastDefinition?_isSome {name : String} :
    (spec.lastDefinition? name).isSome ↔ name ∈ spec.definitions.map Definition.name := by
  simp [lastDefinition?]

theorem lastDefinition?_of_lastBound? {name : String} {d : Definition}
    (hd : spec.lastBound? (Target.bound name) = some d) (hname : d.name = name) :
    spec.lastDefinition? name = some d := by
  obtain ⟨-, before, after, hsplit, hbefore⟩ := List.find?_eq_some_iff_append.1 hd
  refine List.find?_eq_some_iff_append.2
    ⟨decide_eq_true hname, before, after, hsplit, fun e he => ?_⟩
  have hother := hbefore e he
  simp only [Bool.not_eq_true', decide_eq_false_iff_not] at hother ⊢
  exact fun heq => hother (congrArg Target.bound heq)

theorem lastBound?_of_lastDefinition? {m : Meaning} {d : Definition}
    (hd : spec.lastDefinition? m.name = some d) (hkeeps : spec.Keeps options m) :
    spec.lastBound? (Target.bound m.name) = some d := by
  have hmem := name_mem_of_lastDefinition? hd
  obtain ⟨e, he, hname⟩ := List.mem_map.1 hmem
  have hfound : (spec.lastBound? (Target.bound m.name)).isSome := by
    refine List.find?_isSome.2 ⟨e, List.mem_reverse.2 he, ?_⟩
    exact decide_eq_true (congrArg Target.bound hname)
  obtain ⟨d', hd'⟩ := Option.isSome_iff_exists.1 hfound
  have hlast := lastDefinition?_of_lastBound? hd' (hkeeps.definitions d' hd')
  rw [hd', ← hd, hlast]

theorem keeps_library_iff (h : spec.warnings options = []) {m : Meaning}
    (hm : Meaning.IsLibrary m.name) :
    spec.Keeps options m ↔
      Target.bound options.className ≠ m.name ∧ spec.lastBound? m.name = none := by
  have hbound := hm.bound.1
  constructor
  · intro hkeeps
    refine ⟨hbound ▸ hkeeps.client.symm, Option.eq_none_iff_forall_ne_some.2 fun d hd => ?_⟩
    have hname := hkeeps.definitions d (by rwa [hbound])
    exact not_mem_reservedNames h (name_mem_of_find? hd)
      (hname ▸ List.mem_append_left _ hm)
  · rintro ⟨hclass, hnone⟩
    constructor
    · rw [hbound]
      exact hclass.symm
    · intro d hd
      rw [hbound, hnone] at hd
      cases hd

theorem lastItem?_imported_iff {q : String}
    (himport : q ∈ Render.imports spec.definitions spec.plans) :
    (spec.module options).lastItem? q = some (.imported q) ↔
      Target.bound options.className ≠ q ∧ spec.lastBound? q = none := by
  rw [lastItem?_module, if_pos himport]
  by_cases hclass : Target.bound options.className = q
  · simp [hclass]
  · cases hd : spec.lastBound? q with
    | none => simp [hclass]
    | some d => cases d <;> simp [hclass, Render.definition]

theorem lastItem?_builtin_iff {b : String} (hbuiltin : b ∈ Warning.builtinTypes) :
    (spec.module options).lastItem? b = none ∧ (builtin? b).isSome ↔
      Target.bound options.className ≠ b ∧ spec.lastBound? b = none := by
  have hfacts : ∀ b ∈ Warning.builtinTypes,
      b ∉ Warning.moduleNames ∧ "annotations" ≠ b ∧ (builtin? b).isSome := by
    decide
  obtain ⟨hmodule, hlate, hfound⟩ := hfacts b hbuiltin
  have himport : b ∉ Render.imports spec.definitions spec.plans :=
    fun himport => hmodule (spec.imports_subset_moduleNames himport)
  rw [lastItem?_module, if_neg himport, if_neg hlate]
  by_cases hclass : Target.bound options.className = b <;> simp [hclass, hfound]

theorem lastItem?_definition_iff {m : Meaning} {d : Definition}
    (hd : spec.lastDefinition? m.name = some d) {name : String} :
    (spec.module options).lastItem? name = some (Render.definition d) ↔
      name = Target.bound m.name ∧ spec.Keeps options m := by
  have hdname : d.name = m.name := by simpa using List.find?_some hd
  constructor
  · intro hitem
    have htitle : (Render.definition d).title = name := by simpa using List.find?_some hitem
    rw [title_definition, hdname] at htitle
    subst htitle
    rw [lastItem?_module] at hitem
    have hclass : Target.bound options.className ≠ Target.bound m.name := by
      intro hclass
      rw [if_pos hclass, Option.some_or] at hitem
      exact definition_ne_client d (Option.some.inj hitem).symm
    refine ⟨rfl, hclass.symm, fun d' hd' => ?_⟩
    rw [if_neg hclass, Option.none_or, Option.mem_def.1 hd', Option.map_some,
      Option.some_or] at hitem
    rw [name_eq_of_definition_eq (Option.some.inj hitem), hdname]
  · rintro ⟨rfl, hkeeps⟩
    rw [lastItem?_module, if_neg hkeeps.client.symm, lastBound?_of_lastDefinition? hd hkeeps]
    rfl

theorem finds_iff {u : Use} {m : Meaning} :
    spec.Finds options u m ↔
      u.name ∉ u.locals ∧ u.name = Target.bound m.name ∧ spec.Keeps options m :=
  ⟨fun h => ⟨h.not_local, h.name_eq, h.keeps⟩, fun h => ⟨h.1, h.2.1, h.2.2⟩⟩

theorem finds_of_iff {locals : List String} {bind : String → String} {m : Meaning} :
    spec.Finds options (.of locals bind m) m ↔
      bind m.name ∉ locals ∧ bind m.name = Target.bound m.name ∧ spec.Keeps options m :=
  finds_iff

theorem finds_library_iff (h : spec.warnings options = []) {u : Use} {m : Meaning}
    (hm : Meaning.IsLibrary m.name) (hname : u.name = m.name) :
    spec.Finds options u m ↔
      u.name ∉ u.locals ∧
        Target.bound options.className ≠ m.name ∧ spec.lastBound? m.name = none := by
  rw [finds_iff, keeps_library_iff h hm, hm.bound.1]
  exact and_congr_right fun _ => and_iff_right hname

theorem resolves_iff_finds (h : spec.warnings options = []) {u : Use} {m : Meaning}
    (hu : u.meaning? = some m) (hm : spec.Provides m)
    (hname : Meaning.IsLibrary m.name → u.name = m.name) :
    spec.Resolves options u ↔ (spec.Defines m → spec.Finds options u m) := by
  cases m with
  | imported q =>
    have hlibrary : Meaning.IsLibrary q := Meaning.isLibrary_of_provides hm rfl
    have hq : u.name = q := hname hlibrary
    have hdefines : spec.Defines (.imported q) := fun _ hname => nomatch hname
    rw [Resolves, hu, forall_prop_of_true hdefines,
      finds_library_iff (m := .imported q) h hlibrary hq]
    dsimp only
    rw [Module.resolve_eq_item]
    refine and_congr_right fun _ => ?_
    rw [Use.lookup, hq, lastItem?_imported_iff hm]
    rfl
  | builtin b =>
    have hlibrary : Meaning.IsLibrary b := Meaning.isLibrary_of_provides hm rfl
    have hb : u.name = b := hname hlibrary
    have hdefines : spec.Defines (.builtin b) := fun _ hname => nomatch hname
    rw [Resolves, hu, forall_prop_of_true hdefines,
      finds_library_iff (m := .builtin b) h hlibrary hb]
    dsimp only
    rw [Module.resolve_eq_builtin]
    refine and_congr_right fun _ => ?_
    rw [Use.lookup, hb, lastItem?_builtin_iff hm]
    rfl
  | schema name =>
    have hdefines : spec.Defines (.schema name) ↔ (spec.lastDefinition? name).isSome := by
      rw [lastDefinition?_isSome]
      exact ⟨fun h => h name rfl, fun h _ hname => Option.some.inj hname ▸ h⟩
    rw [Resolves, hu, hdefines, Option.isSome_iff_exists, forall_exists_index]
    refine forall_congr' fun d => imp_congr_right fun hd => ?_
    rw [Module.resolve_eq_item, finds_iff]
    exact and_congr_right fun _ => lastItem?_definition_iff (m := .schema name) hd

/-! Where the names stand that are looked up. -/

theorem meanings_subset {d : Definition} {f : Field} (hd : d ∈ spec.definitions)
    (hf : f ∈ d.ownFields) : f.meanings ⊆ .imported "pydantic" :: f.type.meanings :=
  List.append_subset.2 ⟨List.subset_cons_self _ _, defaultMeanings_subset hd hf⟩

theorem provides_field {d : Definition} {f : Field} (hd : d ∈ spec.definitions)
    (hf : f ∈ d.ownFields) {m : Meaning} (hm : m ∈ f.meanings) : spec.Provides m := by
  rcases List.mem_cons.1 (meanings_subset hd hf hm) with rfl | hm
  · exact mem_imports_of_mem_fixed (by decide)
  · exact provides_type (type_mem_types hd hf) m hm

theorem isLibrary_default {d : Definition} {f : Field} (hd : d ∈ spec.definitions)
    (hf : f ∈ d.ownFields) {m : Meaning} (hm : m ∈ f.defaultMeanings) :
    Meaning.IsLibrary m.name := by
  refine Meaning.isLibrary_of_provides (provides_field hd hf (List.mem_append_right _ hm)) ?_
  rcases List.mem_cons.1 hm with rfl | hm
  · rfl
  · split at hm
    · cases hm
    · obtain ⟨factory, -, rfl⟩ := List.mem_map.1 hm
      cases TypeExpr.moduleOf factory <;> rfl

theorem field_name_ne {d : Definition} {f g : Field} (hd : d ∈ spec.definitions)
    (hf : f ∈ d.ownFields) (hg : g ∈ d.ownFields) {m : Meaning} (hm : m ∈ f.meanings) :
    g.name ≠ m.name := by
  obtain ⟨⟨n, s⟩, -, rfl⟩ := List.mem_map.1 hd
  cases s with
  | object properties required =>
    have hlooked : m.name ∈
        (Render.modelClass n (Definition.fields properties required)).names := by
      have hmem := List.mem_map_of_mem (f := Meaning.name) hm
      rw [Field.meanings, List.map_append, f.type.means_toTarget.1,
        (Render.means_fieldDefault f).1, TypeExpr.names_toTarget, Render.names_fieldDefault] at hmem
      rw [Render.names_modelClass]
      exact List.mem_append_right _ (List.mem_flatMap.2 ⟨f, hf, hmem⟩)
    intro hname
    exact Definition.name_not_mem_reserved _ _ g hg
      (hname ▸ Definition.names_modelClass_subset_reserved _ _ _ hlooked)
  | primitive kind format => cases hf
  | reference target => cases hf
  | array item => cases hf
  | untyped => cases hf

theorem parameter_name_ne {plan : Plan} (hplan : plan ∈ spec.plans) {t : TypeExpr}
    (ht : t ∈ plan.returnType) {m : Meaning} (hm : m ∈ t.meanings) {p : PlannedParameter}
    (hp : p ∈ plan.parameters) : p.name ≠ m.name := by
  obtain ⟨endpoint, -, rfl⟩ := List.mem_map.1 hplan
  intro hname
  exact (Plan.safe_ofEndpoint endpoint).not_lookup p hp t ht
    (hname ▸ TypeExpr.name_mem_lookups hm)

/-- Where a name stands that is looked up. -/
inductive Site (spec : Spec) (options : Options) : Use → Prop
  | own {locals : List String} {name : String} :
      name ∈ locals → Site spec options (.own locals name)
  | support {locals : List String} {q : String} :
      q ∉ locals → q ∈ ["pydantic", "pydantic_core"] →
        Site spec options (.of locals (spec.client options).bound (.imported q))
  | field {d : Definition} {f : Field} {m : Meaning} :
      d ∈ spec.definitions → f ∈ d.ownFields → m ∈ f.meanings →
        Site spec options (.of (Definition.scope d.name d.ownFields) Target.bound m)
  | typeAlias {name : String} {type : TypeExpr} {m : Meaning} :
      .typeAlias name type ∈ spec.definitions → m ∈ type.meanings →
        Site spec options (.of [] Target.bound m)
  | reply {plan : Plan} {t : TypeExpr} {m : Meaning} :
      plan ∈ spec.plans → t ∈ plan.returnType → m ∈ t.meanings →
        Site spec options
          (.of (plan.scope (spec.client options).bound) (spec.client options).bound m)

theorem uses_default {d : Definition} {f : Field} (hd : d ∈ spec.definitions)
    (hf : f ∈ d.ownFields) (c : Target.Class) (locals : List String) :
    f.defaultMeanings.map (Use.of locals c.bound) =
      f.defaultMeanings.map (.of locals Target.bound) := by
  refine List.map_congr_left fun m hm => ?_
  have hlibrary := isLibrary_default hd hf hm
  rw [Use.of, Use.of, hlibrary.bound_class, hlibrary.bound.1]

theorem mem_uses_model {name : String} {fields : List Field}
    (hd : Definition.model name fields ∈ spec.definitions) {u : Use} :
    u ∈ (Definition.model name fields).uses ↔
      ∃ f ∈ fields, ∃ m ∈ f.meanings, u = .of (Definition.scope name fields) Target.bound m := by
  rw [Definition.uses, List.mem_flatMap]
  refine exists_congr fun f => and_congr_right fun hf => ?_
  rw [uses_default (f := f) hd hf, ← List.map_append, ← Field.meanings, List.mem_map]
  simp only [eq_comm]

theorem mem_scope_of_mem_parameters {plan : Plan} {p : PlannedParameter}
    (hp : p ∈ plan.parameters) : p.name ∈ Execution.scope (Render.method plan) :=
  Render.mem_scope_method.2 (.inr (.inl (List.mem_map_of_mem hp)))

theorem variables_subset_scope (plan : Plan) :
    plan.variablesBefore ++ plan.variablesAfter ⊆ Execution.scope (Render.method plan) := by
  have hself : "self" ∈ Execution.scope (Render.method plan) := Render.mem_scope_method.2 (.inl rfl)
  have hpath : "_path" ∈ Execution.scope (Render.method plan) :=
    Render.mem_scope_method.2 (.inr (.inr (.inr rfl)))
  intro x hx
  rcases List.mem_append.1 hx with hx | hx
  · rcases List.mem_append.1 hx with hx | hx
    · split at hx
      next => cases hx
      next hne =>
        have hquery : "_query" ∈ Execution.scope (Render.method plan) :=
          Render.mem_scope_method.2 (.inr (.inr (.inl ⟨rfl, hne⟩)))
        simp only [List.mem_append, List.mem_flatMap, List.mem_cons, List.not_mem_nil,
          or_false] at hx
        rcases hx with ⟨p, hp, rfl | rfl⟩ | rfl | rfl
        · refine mem_scope_of_mem_parameters ?_
          simp [Plan.parameters, hp]
        all_goals exact hquery
    · simp only [List.mem_cons, List.not_mem_nil, or_false] at hx
      rcases hx with rfl | rfl
      · exact hself
      · exact hpath
  · obtain ⟨p, hp, rfl⟩ := List.mem_map.1 hx
    exact mem_scope_of_mem_parameters (List.mem_append_right _ hp)

theorem site_definition {d : Definition} (hd : d ∈ spec.definitions) :
    ∀ u ∈ d.uses, spec.Site options u := by
  intro u hu
  cases d with
  | model name fields =>
    obtain ⟨f, hf, m, hm, rfl⟩ := (mem_uses_model hd).1 hu
    exact Site.field (d := .model name fields) hd hf hm
  | typeAlias name type =>
    obtain ⟨m, hm, rfl⟩ := List.mem_map.1 hu
    exact .typeAlias hd hm

theorem site_plan {plan : Plan} (hplan : plan ∈ spec.plans) :
    ∀ u ∈ plan.uses (spec.client options).bound, spec.Site options u := by
  intro u hu
  simp only [Plan.uses, List.mem_append, List.mem_map, List.mem_flatMap, Option.mem_toList] at hu
  rcases hu with (⟨x, hx, rfl⟩ | ⟨m, ⟨t, ht, hm⟩, rfl⟩) | ⟨x, hx, rfl⟩
  · have hscope := variables_subset_scope plan (List.mem_append_left _ hx)
    exact .own (List.mem_map_of_mem hscope)
  · exact .reply hplan ht hm
  · have hscope := variables_subset_scope plan (List.mem_append_right _ hx)
    exact .own (List.mem_map_of_mem hscope)

theorem site_support {f : Function}
    (hf : f ∈ [Render.constructor, Render.send, Render.sendNoContent]) :
    ∀ u ∈ Render.supportUses (spec.client options).bound f, spec.Site options u := by
  have hscopes : ∀ f ∈ [Render.constructor, Render.send, Render.sendNoContent], ∀ x ∈ f.names,
      if x ∈ ["pydantic", "pydantic_core"] then x ∉ Execution.scope f
      else x ∈ Execution.scope f := by
    decide +kernel
  have hwritten : ∀ f ∈ [Render.constructor, Render.send, Render.sendNoContent],
      ∀ x ∈ Execution.scope f, Target.bound x = x ∧ isHidden x = false := by
    decide +kernel
  intro u hu
  obtain ⟨x, hx, rfl⟩ := List.mem_map.1 hu
  have hscope := hscopes f hf x hx
  unfold Render.supportUse
  split at hscope
  next h =>
    rw [if_pos h]
    refine .support (fun hmem => hscope ?_) h
    have hmap : (Execution.scope f).map (spec.client options).bound = Execution.scope f := by
      refine (List.map_congr_left fun x hx => ?_).trans (List.map_id _)
      exact (spec.client options).bound_eq (hwritten f hf x hx).1 (hwritten f hf x hx).2
    rwa [hmap] at hmem
  next h =>
    rw [if_neg h]
    exact .own (List.mem_map_of_mem hscope)

theorem site_of_mem (spec : Spec) (options : Options) :
    ∀ u ∈ spec.uses options, spec.Site options u := by
  intro u hu
  simp only [uses, List.mem_append, List.mem_flatMap] at hu
  rcases hu with ⟨d, hd, hu⟩ | (hu | ⟨plan, hplan, hu⟩) | hu | hu
  · exact site_definition hd u hu
  · exact site_support (by simp) u hu
  · exact site_plan hplan u hu
  · exact site_support (by simp) u hu
  · exact site_support (by simp) u hu

theorem resolves_of_iff (h : spec.warnings options = []) {m : Meaning} (hm : spec.Provides m)
    (locals : List String) {bind : String → String}
    (hbind : Meaning.IsLibrary m.name → bind m.name = m.name) :
    spec.Resolves options (.of locals bind m) ↔
      ∀ m' ∈ (Use.of locals bind m).meaning?, spec.Defines m' →
        spec.Finds options (.of locals bind m) m' := by
  rw [resolves_iff_finds (u := .of locals bind m) h rfl hm hbind]
  exact ⟨fun hfinds m' hm' => Option.some.inj hm' ▸ hfinds, fun hfinds => hfinds m rfl⟩

theorem Site.resolves_iff (h : spec.warnings options = []) {u : Use} (hu : spec.Site options u) :
    spec.Resolves options u ↔
      ∀ m ∈ u.meaning?, spec.Defines m → spec.Finds options u m := by
  cases hu with
  | own hlocal => exact iff_of_true (if_pos hlocal) fun m hm => nomatch hm
  | @support locals q hlocal hq =>
    have hprovides : spec.Provides (.imported q) :=
      List.mem_append_right _ (List.mem_cons_of_mem _ hq)
    exact resolves_of_iff h hprovides locals fun hlibrary => hlibrary.bound_class _
  | field hd hf hm =>
    exact resolves_of_iff h (provides_field hd hf hm) _ fun hlibrary => hlibrary.bound.1
  | @typeAlias name type m hd hm =>
    have htype : type ∈ spec.types :=
      List.mem_append_left _ (List.mem_flatMap.2 ⟨_, hd, List.mem_singleton_self _⟩)
    exact resolves_of_iff h (provides_type htype m hm) _ fun hlibrary => hlibrary.bound.1
  | @reply plan t m hplan ht hm =>
    have htype : t ∈ spec.types := by
      refine List.mem_append_right _ (List.mem_flatMap.2 ⟨plan, hplan, ?_⟩)
      exact List.mem_append_right _ (Option.mem_toList.2 ht)
    exact resolves_of_iff h (provides_type htype m hm) _ fun hlibrary => hlibrary.bound_class _

/-! Which variables take the place of what is meant. -/

def FieldsApart (spec : Spec) (d : Definition) : Prop :=
  ∀ f ∈ d.ownFields, ∀ m ∈ f.meanings, spec.Defines m →
    Target.bound m.name ≠ "model_config" ∧
      ∀ g ∈ d.ownFields, g.name ≠ m.name →
        (Render.modelClass d.name d.ownFields).bound g.name ≠ Target.bound m.name

def ReplyApart (spec : Spec) (bind : String → String) (plan : Plan) : Prop :=
  ∀ t ∈ plan.returnType, ∀ m ∈ t.meanings, spec.Defines m →
    bind m.name = Target.bound m.name ∧ Target.bound m.name ∉ plan.fixedLocals ∧
      ∀ p ∈ plan.parameters, p.name ≠ m.name → bind p.name ≠ Target.bound m.name

/-- Nothing that a name is bound to takes the place of what is meant where it is looked up. -/
structure Unhidden (spec : Spec) (options : Options) : Prop where
  client : ∀ u ∈ spec.uses options, ∀ m ∈ u.meaning?, spec.Defines m →
    Target.bound m.name ≠ Target.bound options.className
  definitions : ∀ u ∈ spec.uses options, ∀ m ∈ u.meaning?, spec.Defines m →
    ∀ d ∈ spec.lastBound? (Target.bound m.name), d.name = m.name
  fields : ∀ d ∈ spec.definitions, spec.FieldsApart d
  replies : ∀ plan ∈ spec.plans, spec.ReplyApart (spec.client options).bound plan

theorem not_mem_scope_model_iff {d : Definition} {f : Field} (hd : d ∈ spec.definitions)
    (hf : f ∈ d.ownFields) {m : Meaning} (hm : m ∈ f.meanings) (name : String) :
    name ∉ Definition.scope d.name d.ownFields ↔
      name ≠ "model_config" ∧
        ∀ g ∈ d.ownFields, g.name ≠ m.name →
          (Render.modelClass d.name d.ownFields).bound g.name ≠ name := by
  have hconfig := Target.Class.bound_fixed (Render.modelClass d.name d.ownFields) "model_config"
    List.mem_cons_self
  rw [Definition.scope, List.map_cons, hconfig, List.mem_cons, not_or]
  refine and_congr_right fun _ => ?_
  constructor
  · intro hfree g hg _ hname
    exact hfree (List.mem_map.2 ⟨g.name, List.mem_map_of_mem hg, hname⟩)
  · intro hfree hmem
    obtain ⟨x, hx, hname⟩ := List.mem_map.1 hmem
    obtain ⟨g, hg, rfl⟩ := List.mem_map.1 hx
    exact hfree g hg (field_name_ne hd hf hg hm) hname

theorem mem_scope_plan {plan : Plan} {name : String} :
    name ∈ Execution.scope (Render.method plan) ↔
      name ∈ plan.fixedLocals ∨ name ∈ plan.parameters.map (·.name) := by
  rw [Render.mem_scope_method, Plan.fixedLocals]
  by_cases hempty : plan.queryParameters = []
  all_goals
    simp only [hempty, ne_eq, not_true, not_false_eq_true, and_true, and_false, if_true, if_false,
      List.mem_append, List.mem_cons, List.not_mem_nil, or_false]
    tauto

theorem bound_fixedLocals {plan : Plan} (c : Target.Class) {name : String}
    (hname : name ∈ plan.fixedLocals) : c.bound name = name := by
  have hsubset : plan.fixedLocals ⊆ ["model_config", "self", "_path", "_query"] := by
    unfold Plan.fixedLocals
    split <;> simp
  exact c.bound_fixed name (hsubset hname)

theorem not_mem_scope_plan_iff {plan : Plan} (hplan : plan ∈ spec.plans) {t : TypeExpr}
    (ht : t ∈ plan.returnType) {m : Meaning} (hm : m ∈ t.meanings) (c : Target.Class)
    (name : String) :
    name ∉ plan.scope c.bound ↔
      name ∉ plan.fixedLocals ∧
        ∀ p ∈ plan.parameters, p.name ≠ m.name → c.bound p.name ≠ name := by
  constructor
  · intro hfree
    refine ⟨fun hfixed => hfree (List.mem_map.2 ⟨name, mem_scope_plan.2 (.inl hfixed), ?_⟩), ?_⟩
    · exact bound_fixedLocals c hfixed
    · intro p hp _ hname
      have hscope := mem_scope_plan.2 (.inr (List.mem_map_of_mem (f := (·.name)) hp))
      exact hfree (List.mem_map.2 ⟨p.name, hscope, hname⟩)
  · rintro ⟨hfixed, hparameters⟩ hmem
    obtain ⟨x, hx, hname⟩ := List.mem_map.1 hmem
    rcases mem_scope_plan.1 hx with hx | hx
    · exact hfixed (((bound_fixedLocals c hx).symm.trans hname) ▸ hx)
    · obtain ⟨p, hp, rfl⟩ := List.mem_map.1 hx
      exact hparameters p hp (parameter_name_ne hplan ht hm hp) hname

theorem field_use_mem {d : Definition} (hd : d ∈ spec.definitions) {f : Field}
    (hf : f ∈ d.ownFields) {m : Meaning} (hm : m ∈ f.meanings) :
    .of (Definition.scope d.name d.ownFields) Target.bound m ∈ spec.uses options := by
  refine List.mem_append_left _ (List.mem_flatMap.2 ⟨d, hd, ?_⟩)
  cases d with
  | model name fields => exact (mem_uses_model hd).2 ⟨f, hf, m, hm, rfl⟩
  | typeAlias name type => cases hf

theorem reply_use_mem {plan : Plan} (hplan : plan ∈ spec.plans) {t : TypeExpr}
    (ht : t ∈ plan.returnType) {m : Meaning} (hm : m ∈ t.meanings) :
    .of (plan.scope (spec.client options).bound) (spec.client options).bound m ∈
      spec.uses options := by
  refine List.mem_append_right _ (List.mem_append_left _ (List.mem_append_right _ ?_))
  refine List.mem_flatMap.2 ⟨plan, hplan, ?_⟩
  refine List.mem_append_left _ (List.mem_append_right _ (List.mem_map_of_mem ?_))
  exact List.mem_flatMap.2 ⟨t, Option.mem_toList.2 ht, hm⟩

/-- In a module without warnings all names are found to be what they are meant for, unless the
client class, another definition or a variable of the body is bound to what such a name is bound
to, or a method makes it private. -/
theorem resolves_of_no_warnings (spec : Spec) (options : Options)
    (h : spec.warnings options = []) :
    (spec.module options).lookups = (spec.uses options).map Use.lookup ∧
      ((∀ u ∈ spec.uses options, spec.Resolves options u) ↔ spec.Unhidden options) := by
  refine ⟨lookups_module spec options, fun hall => ?_, fun hunhidden u hu => ?_⟩
  · have hfinds := fun u hu => ((spec.site_of_mem options u hu).resolves_iff h).1 (hall u hu)
    constructor
    · exact fun u hu m hm hdefines => (hfinds u hu m hm hdefines).keeps.client
    · exact fun u hu m hm hdefines => (hfinds u hu m hm hdefines).keeps.definitions
    · intro d hd f hf m hm hdefines
      obtain ⟨hlocal, -, -⟩ := finds_of_iff.1 (hfinds _ (field_use_mem hd hf hm) m rfl hdefines)
      exact (not_mem_scope_model_iff hd hf hm _).1 hlocal
    · intro plan hplan t ht m hm hdefines
      obtain ⟨hlocal, hname, -⟩ :=
        finds_of_iff.1 (hfinds _ (reply_use_mem hplan ht hm) m rfl hdefines)
      rw [hname] at hlocal
      exact ⟨hname, (not_mem_scope_plan_iff hplan ht hm _ _).1 hlocal⟩
  · have hsite := spec.site_of_mem options u hu
    refine (hsite.resolves_iff h).2 fun m hm hdefines => ?_
    have hkeeps : spec.Keeps options m :=
      ⟨hunhidden.client u hu m hm hdefines, hunhidden.definitions u hu m hm hdefines⟩
    cases hsite with
    | own hlocal => cases hm
    | @support locals q hlocal hq =>
      obtain rfl := Option.some.inj hm
      have hsubset : ["pydantic", "pydantic_core"] ⊆ Warning.moduleNames := by decide
      have hlibrary : Meaning.IsLibrary q := List.mem_append_left _ (hsubset hq)
      have hname : (spec.client options).bound q = q := hlibrary.bound_class _
      refine finds_of_iff.2 ⟨?_, hname.trans hlibrary.bound.1.symm, hkeeps⟩
      rwa [Meaning.name, hname]
    | field hd hf hmeaning =>
      obtain rfl := Option.some.inj hm
      have hapart := hunhidden.fields _ hd _ hf _ hmeaning hdefines
      have hlocal := (not_mem_scope_model_iff hd hf hmeaning _).2 hapart
      exact finds_of_iff.2 ⟨hlocal, rfl, hkeeps⟩
    | typeAlias hd hmeaning =>
      obtain rfl := Option.some.inj hm
      exact finds_of_iff.2 ⟨List.not_mem_nil, rfl, hkeeps⟩
    | reply hplan ht hmeaning =>
      obtain rfl := Option.some.inj hm
      obtain ⟨hname, hapart⟩ := hunhidden.replies _ hplan _ ht _ hmeaning hdefines
      have hlocal := (not_mem_scope_plan_iff hplan ht hmeaning (spec.client options) _).2 hapart
      rw [← hname] at hlocal
      exact finds_of_iff.2 ⟨hlocal, hname, hkeeps⟩

def listed : Spec :=
  { schemas :=
      [("A", some (.object [("bs", .array (.reference "B"))] [])), ("B", some (.object [] []))] }

theorem listed_resolves :
    listed.warnings {} = [] ∧ ∀ u ∈ listed.uses {}, listed.Resolves {} u := by
  have hwarnings : listed.warnings {} = [] := by decide +kernel
  refine ⟨hwarnings, (resolves_of_no_warnings listed {} hwarnings).2.2 ?_⟩
  constructor
  · decide +kernel
  · decide +kernel
  · unfold FieldsApart
    decide +kernel
  · unfold ReplyApart
    decide +kernel

theorem listed_captured :
    listed.warnings { className := "list" } = [] ∧
      ¬∀ u ∈ listed.uses { className := "list" }, listed.Resolves { className := "list" } u := by
  have hwarnings : listed.warnings { className := "list" } = [] := by decide +kernel
  have huse : Use.of ["model_config", "Bs"] Target.bound (.builtin "list") ∈
      listed.uses { className := "list" } := by
    decide +kernel
  refine ⟨hwarnings, fun hall => ?_⟩
  have hfree := ((listed.site_of_mem _ _ huse).resolves_iff hwarnings).1 (hall _ huse)
  exact (hfree _ rfl fun _ hname => nomatch hname).keeps.client rfl

end Spec

end TypedClient
