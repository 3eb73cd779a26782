import TypedClient.Proofs.FieldNames
import TypedClient.Proofs.ParameterNames
import TypedClient.Warnings

namespace TypedClient

inductive Meaning
  | imported (module : String)
  | builtin (type : String)
  | schema (name : String)
  deriving DecidableEq

namespace Meaning

def name : Meaning → String
  | imported module => module
  | builtin type => type
  | schema name => name

def module? : Meaning → Option String
  | imported module => some module
  | _ => none

def schema? : Meaning → Option String
  | schema name => some name
  | _ => none

def typeModules : List String := ["typing", "datetime", "decimal", "uuid"]

def Known (references : List String) : Meaning → Prop
  | imported module => module ∈ typeModules
  | builtin type => type ∈ Warning.builtinTypes
  | schema name => name ∈ references

instance (references : List String) : DecidablePred (Known references)
  | imported module => inferInstanceAs (Decidable (module ∈ typeModules))
  | builtin type => inferInstanceAs (Decidable (type ∈ Warning.builtinTypes))
  | schema name => inferInstanceAs (Decidable (name ∈ references))

theorem Known.mono {references references' : List String} {m : Meaning}
    (h : m.Known references) (hsub : references ⊆ references') : m.Known references' := by
  cases m with
  | imported module => exact h
  | builtin type => exact h
  | schema name => exact hsub h

end Meaning

namespace TypeExpr

def headMeaning (t : TypeExpr) : Meaning :=
  match t.qualifier? with
  | some module => .imported module
  | none => if t.kind = .reference then .schema t.name else .builtin t.name

mutual

def meanings : TypeExpr → List Meaning
  | mk name kind args => headMeaning (mk name kind args) :: meaningsAll args

def meaningsAll : List TypeExpr → List Meaning
  | [] => []
  | t :: rest => t.meanings ++ meaningsAll rest

end

def references (t : TypeExpr) : List String := t.meanings.filterMap Meaning.schema?

theorem mem_references {t : TypeExpr} {name : String} :
    name ∈ t.references ↔ .schema name ∈ t.meanings := by
  rw [references, List.mem_filterMap]
  constructor
  · rintro ⟨m, hm, hname⟩
    cases m with
    | imported module => cases hname
    | builtin type => cases hname
    | schema other => exact Option.some.inj hname ▸ hm
  · exact fun hm => ⟨_, hm, rfl⟩

theorem name_headMeaning (t : TypeExpr) : t.headMeaning.name = t.headLookup := by
  unfold headMeaning headLookup
  cases t.qualifier? with
  | some module => rfl
  | none =>
    simp only [Option.getD_none]
    split <;> rfl

theorem module?_headMeaning (t : TypeExpr) : t.headMeaning.module? = t.qualifier? := by
  unfold headMeaning
  cases t.qualifier? with
  | some module => rfl
  | none =>
    simp only
    split <;> rfl

mutual

theorem map_name_meanings : (t : TypeExpr) → t.meanings.map Meaning.name = t.lookups
  | mk name kind args => by
    rw [meanings, List.map_cons, name_headMeaning, map_name_meaningsAll args]
    rfl

theorem map_name_meaningsAll :
    (ts : List TypeExpr) → (meaningsAll ts).map Meaning.name = lookupsAll ts
  | [] => rfl
  | t :: rest => by
    rw [meaningsAll, List.map_append, map_name_meanings t, map_name_meaningsAll rest]
    rfl

end

theorem name_mem_lookups {t : TypeExpr} {m : Meaning} (hm : m ∈ t.meanings) :
    m.name ∈ t.lookups :=
  t.map_name_meanings ▸ List.mem_map_of_mem hm

mutual

theorem filterMap_module?_meanings :
    (t : TypeExpr) → t.meanings.filterMap Meaning.module? = t.qualifiers
  | mk name kind args => by
    have hargs := filterMap_module?_meaningsAll args
    rw [meanings, qualifiers, List.filterMap_cons, module?_headMeaning, hargs]
    cases qualifier? (mk name kind args) <;> rfl

theorem filterMap_module?_meaningsAll :
    (ts : List TypeExpr) → (meaningsAll ts).filterMap Meaning.module? = qualifiersAll ts
  | [] => rfl
  | t :: rest => by
    rw [meaningsAll, List.filterMap_append, filterMap_module?_meanings t,
      filterMap_module?_meaningsAll rest]
    rfl

end

theorem meanings_optional (t : TypeExpr) : t.optional.meanings = .imported "typing" :: t.meanings := by
  have hhead : headMeaning t.optional = .imported "typing" := by
    simp [headMeaning, optional, qualifier?, moduleOf]
  simp only [optional] at hhead ⊢
  simp [meanings, meaningsAll, hhead]

def KnownTo (references : List String) (t : TypeExpr) : Prop :=
  ∀ m ∈ t.meanings, m.Known references

theorem KnownTo.mono {references references' : List String} {t : TypeExpr}
    (h : t.KnownTo references) (hsub : references ⊆ references') : t.KnownTo references' :=
  fun m hm => (h m hm).mono hsub

theorem knownTo_leaf {name : String} {kind : Kind} (references : List String)
    (h : (headMeaning (mk name kind [])).Known []) : (mk name kind []).KnownTo references := by
  intro m hm
  obtain rfl := List.mem_singleton.1 hm
  exact h.mono (List.nil_subset references)

theorem knownTo_any (references : List String) : any.KnownTo references :=
  knownTo_leaf references (by decide)

theorem KnownTo.optional {references : List String} {t : TypeExpr} (h : t.KnownTo references) :
    t.optional.KnownTo references := by
  intro m hm
  rw [meanings_optional] at hm
  rcases List.mem_cons.1 hm with rfl | hm
  · exact List.mem_cons_self
  · exact h m hm

theorem knownTo_ofPrimitive (kind : String) (format : Option String) (references : List String) :
    (ofPrimitive kind format).KnownTo references := by
  unfold ofPrimitive
  split
  · refine knownTo_leaf references ?_
    unfold stringType
    split <;> decide
  · exact knownTo_leaf references (by decide)
  · refine knownTo_leaf references ?_
    unfold numberType
    split <;> decide
  · exact knownTo_leaf references (by decide)
  · exact knownTo_any references

theorem knownTo_ofSchema : (s : Schema) → (ofSchema s).KnownTo s.references
  | .primitive kind format => knownTo_ofPrimitive kind format []
  | .reference name => by
    intro m hm
    obtain rfl := List.mem_singleton.1 hm
    exact List.mem_singleton_self name
  | .array item => by
    intro m hm
    rcases List.mem_cons.1 hm with rfl | hm
    · exact List.mem_of_elem_eq_true rfl
    · rw [meaningsAll, meaningsAll, List.append_nil] at hm
      exact knownTo_ofSchema item m hm
  | .object properties required => knownTo_leaf _ (by decide)
  | .untyped => knownTo_any _

end TypeExpr

namespace Definition

theorem knownTo_field {references : List String} {t : TypeExpr} (h : t.KnownTo references)
    (name source : String) (required : Bool) :
    (field name source t required).type.KnownTo references := by
  unfold field
  split
  · exact h.optional
  · split <;> exact h

theorem references_subset_propertyReferences {properties : List (String × Schema)}
    {p : String × Schema} (hp : p ∈ properties) :
    p.2.references ⊆ Schema.propertyReferences properties := by
  induction properties with
  | nil => simp at hp
  | cons q rest ih =>
    rw [Schema.propertyReferences]
    rcases List.mem_cons.1 hp with rfl | hp
    · exact List.subset_append_left _ _
    · exact List.Subset.trans (ih hp) (List.subset_append_right _ _)

theorem knownTo_definitionTypes (name : String) (s : Schema) :
    ∀ t ∈ Render.definitionTypes (ofSchema name s), t.KnownTo s.references := by
  intro t ht
  cases s with
  | object properties required =>
    rw [ofSchema_object] at ht
    obtain ⟨f, hf, rfl⟩ := List.mem_map.1 ht
    obtain ⟨q, hq, hfield⟩ := eq_field_of_mem_nameFields hf
    obtain ⟨p, hp, rfl⟩ := List.mem_map.1 hq
    rw [hfield]
    apply knownTo_field
    exact (TypeExpr.knownTo_ofSchema p.2).mono (references_subset_propertyReferences hp)
  | _ =>
    obtain rfl := List.mem_singleton.1 ht
    exact TypeExpr.knownTo_ofSchema _

end Definition

namespace Content

theorem knownTo_of_type? {content : Content} {t : TypeExpr} (h : type? content = some t)
    {references : List String} (hsub : ∀ s ∈ content.map (·.2), s.references ⊆ references) :
    t.KnownTo references := by
  obtain ⟨s, hs, rfl⟩ := Option.map_eq_some_iff.1 h
  obtain ⟨entry, hentry, rfl⟩ := Option.map_eq_some_iff.1 hs
  have hmem : entry.2 ∈ content.map (·.2) := List.mem_map_of_mem (List.mem_of_find?_eq_some hentry)
  exact (TypeExpr.knownTo_ofSchema entry.2).mono (hsub _ hmem)

end Content

namespace Plan

theorem references_subset {endpoint : Endpoint} {s : Schema} (hs : s ∈ endpoint.schemas) :
    s.references ⊆ endpoint.schemas.flatMap Schema.references :=
  fun _ hx => List.mem_flatMap.2 ⟨s, hs, hx⟩

theorem exists_parameter_of_mem {endpoint : Endpoint} {p : PlannedParameter}
    (hp : p ∈ (ofEndpoint endpoint).pathParameters ++ (ofEndpoint endpoint).queryParameters) :
    ∃ q ∈ endpoint.parameters, p.type = plannedType q := by
  have hdeclared : declared p ∈ endpoint.parameters.map toDeclared := by
    rcases List.mem_append.1 hp with hp | hp
    · have hmem := List.mem_map_of_mem (f := declared) hp
      rw [map_declared_pathParameters] at hmem
      exact List.map_subset _ (List.filter_subset_self _) hmem
    · have hmem := List.mem_map_of_mem (f := declared) hp
      rw [map_declared_queryParameters] at hmem
      exact List.map_subset _ (List.filter_subset_self _) hmem
  obtain ⟨q, hq, heq⟩ := List.mem_map.1 hdeclared
  exact ⟨q, hq, (congrArg (·.2.2) heq).symm⟩

theorem knownTo_plannedType (p : Parameter) : (plannedType p).KnownTo p.schema.references := by
  unfold plannedType
  cases p.location with
  | path => exact TypeExpr.knownTo_ofSchema p.schema
  | query => exact (TypeExpr.knownTo_ofSchema p.schema).optional

theorem knownTo_body {endpoint : Endpoint} {p : PlannedParameter}
    (hp : p ∈ (ofEndpoint endpoint).body.toList) :
    p.type.KnownTo (endpoint.schemas.flatMap Schema.references) := by
  have htype : p.type = Content.bodyType endpoint.requestBody := by
    simp only [ofEndpoint] at hp
    split at hp
    · cases hp
    · rw [List.mem_singleton.1 hp]
  rw [htype, Content.bodyType]
  cases h : Content.type? (endpoint.requestBody.getD []) with
  | none => exact TypeExpr.knownTo_any _
  | some t =>
    refine Content.knownTo_of_type? h fun s hs => references_subset ?_
    simp only [Endpoint.schemas, List.mem_append]
    exact .inl (.inr hs)

theorem knownTo_returnType {endpoint : Endpoint} {t : TypeExpr}
    (ht : (ofEndpoint endpoint).returnType = some t) :
    t.KnownTo (endpoint.schemas.flatMap Schema.references) := by
  rw [returnType_ofEndpoint] at ht
  obtain ⟨content, hsuccess, htype⟩ := Option.bind_eq_some_iff.1 ht
  obtain ⟨response, hresponse, rfl⟩ := Option.map_eq_some_iff.1 hsuccess
  refine Content.knownTo_of_type? htype fun s hs => references_subset ?_
  simp only [Endpoint.schemas, List.mem_append, List.mem_flatMap]
  exact .inr ⟨response, List.mem_of_find?_eq_some hresponse, hs⟩

theorem knownTo_planTypes (endpoint : Endpoint) :
    ∀ t ∈ Render.planTypes (ofEndpoint endpoint),
      t.KnownTo (endpoint.schemas.flatMap Schema.references) := by
  intro t ht
  rcases List.mem_append.1 ht with ht | ht
  · obtain ⟨p, hp, rfl⟩ := List.mem_map.1 ht
    rcases List.mem_append.1 hp with hp | hp
    · obtain ⟨q, hq, htype⟩ := exists_parameter_of_mem hp
      rw [htype]
      refine (knownTo_plannedType q).mono (references_subset ?_)
      simp only [Endpoint.schemas, List.mem_append]
      exact .inl (.inl (List.mem_map_of_mem hq))
    · exact knownTo_body hp
  · exact knownTo_returnType (Option.mem_toList.1 ht)

end Plan

namespace Spec

def types (spec : Spec) : List TypeExpr :=
  spec.definitions.flatMap Render.definitionTypes ++ spec.plans.flatMap Render.planTypes

theorem knownTo_types (spec : Spec) : ∀ t ∈ spec.types, t.KnownTo spec.referencedNames := by
  intro t ht
  rcases List.mem_append.1 ht with ht | ht
  · obtain ⟨d, hd, ht⟩ := List.mem_flatMap.1 ht
    obtain ⟨⟨name, s⟩, hs, rfl⟩ := List.mem_map.1 hd
    refine (Definition.knownTo_definitionTypes name s t ht).mono fun x hx => ?_
    have hmem : s ∈ spec.definedSchemas.map (·.2) := List.mem_map_of_mem hs
    exact List.mem_flatMap.2 ⟨s, List.mem_append_left _ hmem, hx⟩
  · obtain ⟨plan, hplan, ht⟩ := List.mem_flatMap.1 ht
    obtain ⟨endpoint, hendpoint, rfl⟩ := List.mem_map.1 hplan
    refine (Plan.knownTo_planTypes endpoint t ht).mono fun x hx => ?_
    obtain ⟨s, hs, hx⟩ := List.mem_flatMap.1 hx
    have hmem : s ∈ spec.endpoints.flatMap Endpoint.schemas :=
      List.mem_flatMap.2 ⟨endpoint, hendpoint, hs⟩
    exact List.mem_flatMap.2 ⟨s, List.mem_append_right _ hmem, hx⟩

theorem references_types_subset (spec : Spec) {t : TypeExpr} (ht : t ∈ spec.types) :
    t.references ⊆ spec.referencedNames :=
  fun _ hx => spec.knownTo_types t ht _ (TypeExpr.mem_references.1 hx)

end Spec

end TypedClient
