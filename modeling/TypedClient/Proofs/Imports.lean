import TypedClient.Proofs.Sorted
import TypedClient.Proofs.TypePlaces

namespace TypedClient

open Target

namespace Target

namespace Expr

def qualifier? : Expr → Option String
  | attr (name module) _ => some module
  | _ => Option.none

def qualifiers (e : Expr) : List String := e.subterms.filterMap qualifier?

def qualifiersAll (es : List Expr) : List String := (subtermsAll es).filterMap qualifier?

@[simp] theorem qualifiers_name (id : String) : (name id).qualifiers = [] := rfl

@[simp] theorem qualifiers_constant (value : Constant) : (constant value).qualifiers = [] := rfl

@[simp] theorem qualifiers_attr_name (module key : String) :
    (attr (name module) key).qualifiers = [module] := rfl

@[simp] theorem qualifiersAll_nil : qualifiersAll [] = [] := rfl

@[simp] theorem qualifiersAll_cons (e : Expr) (rest : List Expr) :
    qualifiersAll (e :: rest) = e.qualifiers ++ qualifiersAll rest := by
  simp [qualifiersAll, qualifiers, subtermsAll]

@[simp] theorem qualifiers_subscript (value : Expr) (index : List Expr) :
    (subscript value index).qualifiers = value.qualifiers ++ qualifiersAll index := by
  rw [qualifiers, subterms, List.filterMap_cons_none rfl, List.filterMap_append]
  rfl

def keywordQualifiers (keywords : List (String × Expr)) : List String :=
  (keywordSubterms keywords).filterMap qualifier?

@[simp] theorem keywordQualifiers_nil : keywordQualifiers [] = [] := rfl

@[simp] theorem keywordQualifiers_cons (key : String) (e : Expr) (rest : List (String × Expr)) :
    keywordQualifiers ((key, e) :: rest) = e.qualifiers ++ keywordQualifiers rest := by
  simp [keywordQualifiers, qualifiers, keywordSubterms]

@[simp] theorem qualifiers_call (function : Expr) (args : List Expr)
    (keywords : List (String × Expr)) :
    (call function args keywords).qualifiers =
      function.qualifiers ++ qualifiersAll args ++ keywordQualifiers keywords := by
  rw [qualifiers, subterms, List.filterMap_cons_none rfl, List.filterMap_append,
    List.filterMap_append]
  rfl

end Expr

def Item.import? : Item → Option String
  | .imported module => some module
  | _ => none

def Module.imports (m : Module) : List String := m.items.filterMap Item.import?

end Target

theorem Meaning.mem_filterMap_module? {ms : List Meaning} {q : String} :
    q ∈ ms.filterMap Meaning.module? ↔ .imported q ∈ ms := by
  rw [List.mem_filterMap]
  constructor
  · rintro ⟨m, hm, hq⟩
    cases m with
    | imported module => exact Option.some.inj hq ▸ hm
    | builtin type => cases hq
    | schema name => cases hq
  · exact fun hm => ⟨_, hm, rfl⟩

namespace TypeExpr

theorem qualifiers_headTarget (t : TypeExpr) :
    t.headTarget.qualifiers = t.qualifier?.toList := by
  unfold headTarget
  cases t.qualifier? <;> rfl

mutual

theorem qualifiers_toTarget : (t : TypeExpr) → t.toTarget.qualifiers = t.qualifiers
  | mk name kind [] => by
    rw [toTarget_leaf, qualifiers_headTarget, qualifiers, qualifiersAll, List.append_nil]
  | mk name kind (arg :: rest) => by
    rw [toTarget_cons, Expr.qualifiers_subscript, qualifiers_headTarget,
      qualifiersAll_toTargets (arg :: rest)]
    rfl

theorem qualifiersAll_toTargets :
    (ts : List TypeExpr) → Expr.qualifiersAll (toTargets ts) = qualifiersAll ts
  | [] => rfl
  | t :: rest => by
    rw [toTargets, Expr.qualifiersAll_cons, qualifiers_toTarget t, qualifiersAll_toTargets rest]
    rfl

end

theorem mem_qualifiersAll {q : String} {ts : List TypeExpr} :
    q ∈ qualifiersAll ts ↔ ∃ t ∈ ts, q ∈ t.qualifiers := by
  induction ts with
  | nil => simp [qualifiersAll]
  | cons t rest ih => simp [qualifiersAll, ih]

theorem mem_qualifiers {t : TypeExpr} {q : String} :
    q ∈ t.qualifiers ↔ .imported q ∈ t.meanings := by
  rw [← filterMap_module?_meanings, Meaning.mem_filterMap_module?]

theorem qualifier?_eq_moduleOf {t : TypeExpr} (h : t.kind ≠ .reference) :
    t.qualifier? = moduleOf t.name := by
  cases t with
  | mk name kind args => exact if_neg fun hbare => h hbare.1

theorem headMeaning_mem_meanings (t : TypeExpr) : t.headMeaning ∈ t.meanings := by
  cases t
  exact List.mem_cons_self

theorem qualifier?_subset_qualifiers (t : TypeExpr) : t.qualifier?.toList ⊆ t.qualifiers := by
  cases t
  exact List.subset_append_left _ _

end TypeExpr

namespace Field

def defaultMeanings (f : Field) : List Meaning :=
  .imported "pydantic" ::
    if f.required then []
    else f.factory.toList.map fun n => ((TypeExpr.moduleOf n).map .imported).getD (.builtin n)

end Field

namespace Target.Expr

def Means (e : Expr) (ms : List Meaning) : Prop :=
  ms.map Meaning.name = e.names ∧ ms.filterMap Meaning.module? = e.qualifiers

end Target.Expr

theorem TypeExpr.means_toTarget (t : TypeExpr) : t.toTarget.Means t.meanings :=
  ⟨by rw [map_name_meanings, names_toTarget],
    by rw [filterMap_module?_meanings, qualifiers_toTarget]⟩

namespace Render

theorem means_fieldDefault (f : Field) : (fieldDefault f).Means f.defaultMeanings := by
  unfold fieldDefault Field.defaultMeanings
  split
  · exact ⟨rfl, rfl⟩
  · cases f.factory with
    | none => exact ⟨rfl, rfl⟩
    | some factory =>
      cases h : TypeExpr.moduleOf factory <;>
        simp [Expr.Means, qualified, text, Meaning.name, Meaning.module?, h]

def supportMeanings (e : Expr) : List Meaning :=
  e.names.map fun x => if x ∈ Warning.builtinTypes then .builtin x else .imported x

theorem means_support :
    ∀ e ∈ supportPlaces, e.Means (supportMeanings e) ∧
      ∀ m ∈ supportMeanings e,
        m ∈ ["typing", "httpx", "pydantic"].map .imported ++ Warning.builtinTypes.map .builtin := by
  unfold Expr.Means
  decide +kernel

theorem imports_module (definitions : List Definition) (plans : List Plan) (options : Options)
    (info : Info) : (module definitions plans options info).imports = imports definitions plans := by
  have hdefinitions : definitions.filterMap (fun d => (definition d).import?) = [] := by
    rw [List.filterMap_eq_nil_iff]
    intro d _
    cases d <;> rfl
  have himported : Item.import? ∘ Item.imported = some := rfl
  rw [Module.imports, module, List.filterMap_append, List.filterMap_append,
    List.filterMap_cons_none rfl, List.filterMap_map, List.filterMap_map, himported,
    List.filterMap_some]
  change imports definitions plans ++ definitions.filterMap (fun d => (definition d).import?) ++ [] = _
  rw [hdefinitions, List.append_nil, List.append_nil]

end Render

namespace Definition

theorem factory_field {name source : String} {t : TypeExpr} {required : Bool} {factory : String}
    (h : (field name source t required).factory = some factory) :
    factory = (field name source t required).type.name ∧
      (field name source t required).type.kind ≠ .reference := by
  unfold field at h ⊢
  split at h
  next => simp at h
  next hnull =>
    rw [if_neg hnull]
    split at h
    next hkind =>
      rw [if_pos hkind]
      refine ⟨(Option.some.inj h).symm, fun hreference => ?_⟩
      simp [hreference] at hkind
    next => simp at h

theorem exists_eq_field {name : String} {s : Schema} {f : Field}
    (hf : f ∈ (ofSchema name s).ownFields) :
    ∃ source t required, f = field f.name source t required := by
  cases s with
  | object properties required =>
    rw [ofSchema_object] at hf
    obtain ⟨p, -, hfield⟩ := eq_field_of_mem_nameFields hf
    exact ⟨_, _, _, hfield⟩
  | _ => cases hf

theorem type_mem_definitionTypes {d : Definition} {f : Field} (hf : f ∈ d.ownFields) :
    f.type ∈ Render.definitionTypes d := by
  cases d with
  | model name fields => exact List.mem_map_of_mem hf
  | typeAlias name type => cases hf

end Definition

namespace Spec

variable {spec : Spec}

theorem factory_ownField {d : Definition} {f : Field} (hd : d ∈ spec.definitions)
    (hf : f ∈ d.ownFields) {factory : String} (hfactory : f.factory = some factory) :
    factory = f.type.name ∧ f.type.kind ≠ .reference := by
  obtain ⟨⟨name, s⟩, -, rfl⟩ := List.mem_map.1 hd
  obtain ⟨source, t, required, hfield⟩ := Definition.exists_eq_field hf
  rw [hfield] at hfactory ⊢
  exact Definition.factory_field hfactory

theorem defaultMeanings_subset {d : Definition} {f : Field} (hd : d ∈ spec.definitions)
    (hf : f ∈ d.ownFields) : f.defaultMeanings ⊆ .imported "pydantic" :: f.type.meanings := by
  refine List.cons_subset_cons _ fun m hm => ?_
  split at hm
  · cases hm
  · obtain ⟨factory, hfactory, rfl⟩ := List.mem_map.1 hm
    obtain ⟨rfl, hkind⟩ := factory_ownField hd hf (Option.mem_toList.1 hfactory)
    have hhead : ((TypeExpr.moduleOf f.type.name).map Meaning.imported).getD
        (.builtin f.type.name) = f.type.headMeaning := by
      rw [TypeExpr.headMeaning, TypeExpr.qualifier?_eq_moduleOf hkind]
      cases TypeExpr.moduleOf f.type.name with
      | none => exact (if_neg hkind).symm
      | some module => rfl
    rw [hhead]
    exact f.type.headMeaning_mem_meanings

theorem type_mem_types {d : Definition} {f : Field} (hd : d ∈ spec.definitions)
    (hf : f ∈ d.ownFields) : f.type ∈ spec.types :=
  List.mem_append_left _ (List.mem_flatMap.2 ⟨d, hd, Definition.type_mem_definitionTypes hf⟩)

theorem exists_type_of_mem_factoryModules {q : String}
    (hq : q ∈ spec.definitions.flatMap Render.factoryModules) :
    ∃ t ∈ spec.types, q ∈ t.qualifiers := by
  obtain ⟨d, hd, hq⟩ := List.mem_flatMap.1 hq
  cases d with
  | model name fields =>
    obtain ⟨f, hf, hq⟩ := List.mem_filterMap.1 hq
    obtain ⟨factory, hfactory, hmodule⟩ := Option.bind_eq_some_iff.1 hq
    obtain ⟨rfl, hkind⟩ := factory_ownField hd hf hfactory
    rw [← TypeExpr.qualifier?_eq_moduleOf hkind] at hmodule
    refine ⟨f.type, type_mem_types hd hf, ?_⟩
    exact f.type.qualifier?_subset_qualifiers (Option.mem_toList.2 hmodule)
  | typeAlias name type => cases hq

theorem mem_typeModules {q : String}
    (hq : q ∈ "typing" :: Render.typeModules spec.definitions spec.plans) :
    q = "typing" ∨ ∃ t ∈ spec.types, q ∈ t.qualifiers := by
  rw [List.mem_cons, Render.typeModules, List.mem_append, List.mem_append] at hq
  rcases hq with rfl | (hq | hq) | hq
  · exact .inl rfl
  · exact .inr (TypeExpr.mem_qualifiersAll.1 hq)
  · exact .inr (exists_type_of_mem_factoryModules hq)
  · split at hq
    · exact .inl (List.mem_singleton.1 hq)
    · cases hq

theorem typeModules_subset (spec : Spec) :
    "typing" :: Render.typeModules spec.definitions spec.plans ⊆ Meaning.typeModules := by
  intro q hq
  rcases mem_typeModules hq with rfl | ⟨t, ht, hq⟩
  · decide
  · exact spec.knownTo_types t ht _ (TypeExpr.mem_qualifiers.1 hq)

theorem nodup_imports (spec : Spec) : (Render.imports spec.definitions spec.plans).Nodup := by
  have hdisjoint : ∀ q ∈ Meaning.typeModules, q ∉ ["httpx", "pydantic", "pydantic_core"] := by
    decide
  refine List.nodup_append'.2 ⟨Text.nodup_sorted _, by decide, fun q hq => ?_⟩
  exact hdisjoint q (spec.typeModules_subset (Text.mem_sorted.1 hq))

theorem imports_subset_moduleNames (spec : Spec) :
    Render.imports spec.definitions spec.plans ⊆ Warning.moduleNames := by
  have hmodules : ∀ q ∈ Meaning.typeModules ++ ["httpx", "pydantic", "pydantic_core"],
      q ∈ Warning.moduleNames := by
    decide
  intro q hq
  apply hmodules
  rcases List.mem_append.1 hq with hq | hq
  · exact List.mem_append_left _ (spec.typeModules_subset (Text.mem_sorted.1 hq))
  · exact List.mem_append_right _ hq

theorem mem_imports_of_mem_fixed {q : String} (hq : q ∈ ["typing", "httpx", "pydantic"]) :
    q ∈ Render.imports spec.definitions spec.plans := by
  simp only [List.mem_cons, List.not_mem_nil, or_false] at hq
  rcases hq with rfl | rfl | rfl <;> simp [Render.imports]

def Provides (spec : Spec) : Meaning → Prop
  | .imported module => module ∈ Render.imports spec.definitions spec.plans
  | .builtin type => type ∈ Warning.builtinTypes
  | .schema name => name ∈ spec.referencedNames

theorem provides_type {t : TypeExpr} (ht : t ∈ spec.types) : ∀ m ∈ t.meanings, spec.Provides m := by
  intro m hm
  have hknown := spec.knownTo_types t ht m hm
  cases m with
  | imported module =>
    refine List.mem_append_left _ (Text.mem_sorted.2 (List.mem_cons_of_mem _ ?_))
    refine List.mem_append_left _ (List.mem_append_left _ ?_)
    exact TypeExpr.mem_qualifiersAll.2 ⟨t, ht, TypeExpr.mem_qualifiers.2 hm⟩
  | builtin type => exact hknown
  | schema name => exact hknown

theorem Place.exists_means {e : Expr} (h : spec.Place e) :
    ∃ ms, e.Means ms ∧ ∀ m ∈ ms, spec.Provides m := by
  cases h with
  | support he =>
    obtain ⟨hmeans, hfixed⟩ := Render.means_support e he
    refine ⟨_, hmeans, fun m hm => ?_⟩
    rcases List.mem_append.1 (hfixed m hm) with hm | hm
    · obtain ⟨q, hq, rfl⟩ := List.mem_map.1 hm
      exact mem_imports_of_mem_fixed hq
    · obtain ⟨type, htype, rfl⟩ := List.mem_map.1 hm
      exact htype
  | type ht => exact ⟨_, TypeExpr.means_toTarget _, provides_type ht⟩
  | @optional t ht =>
    refine ⟨_, TypeExpr.means_toTarget _, ?_⟩
    rw [TypeExpr.meanings_optional]
    exact List.forall_mem_cons.2 ⟨mem_imports_of_mem_fixed List.mem_cons_self, provides_type ht⟩
  | @fieldDefault d f hd hf =>
    refine ⟨_, Render.means_fieldDefault f, fun m hm => ?_⟩
    rcases List.mem_cons.1 (defaultMeanings_subset hd hf hm) with rfl | hm
    · exact mem_imports_of_mem_fixed (by decide)
    · exact provides_type (type_mem_types hd hf) m hm

theorem imports_exact (spec : Spec) (options : Options) :
    (∀ e ∈ (spec.module options).typePlaces,
        (∀ x ∈ e.names,
          x ∈ (spec.module options).imports ∨ x ∈ Warning.builtinTypes ∨
            x ∈ spec.referencedNames) ∧
          ∀ q ∈ e.qualifiers, (spec.module options).imports.count q = 1) ∧
      ∀ q ∈ ["datetime", "decimal", "uuid"], q ∈ (spec.module options).imports →
        ∃ e ∈ (spec.module options).typePlaces, q ∈ e.qualifiers := by
  have himports : (spec.module options).imports = Render.imports spec.definitions spec.plans :=
    Render.imports_module _ _ _ _
  rw [himports]
  refine ⟨fun e he => ?_, fun q hq hmem => ?_⟩
  · obtain ⟨ms, ⟨hnames, hqualifiers⟩, hprovides⟩ := (place_of_mem he).exists_means
    refine ⟨fun x hx => ?_, fun q hq => List.count_eq_one_of_mem spec.nodup_imports ?_⟩
    · rw [← hnames] at hx
      obtain ⟨m, hm, rfl⟩ := List.mem_map.1 hx
      have hprovided := hprovides m hm
      cases m with
      | imported module => exact .inl hprovided
      | builtin type => exact .inr (.inl hprovided)
      | schema name => exact .inr (.inr hprovided)
    · rw [← hqualifiers] at hq
      exact hprovides _ (Meaning.mem_filterMap_module?.1 hq)
  · have hoptional : q ∉ ["httpx", "pydantic", "pydantic_core"] ∧ q ≠ "typing" := by
      clear hmem
      revert q
      decide
    have htype := (List.mem_append.1 hmem).resolve_right hoptional.1
    obtain ⟨t, ht, hq⟩ := (mem_typeModules (Text.mem_sorted.1 htype)).resolve_left hoptional.2
    refine ⟨t.toTarget, toTarget_mem_typePlaces options ht, ?_⟩
    rwa [TypeExpr.qualifiers_toTarget]

end Spec

end TypedClient
