import TypedClient.Proofs.Naming
import TypedClient.Proofs.TypeLookup

namespace TypedClient

open Target

def Target.Class.names (c : Class) : List String := c.exprs.flatMap Expr.names

def Target.Member.alias? : Member → Option (String × String)
  | .stmt (.annotated name _ (.call (.attr (.name "pydantic") "Field") _ keywords)) =>
    match keywords.lookup "alias" with
    | some (.constant (.text wire)) => some (name, wire)
    | _ => none
  | _ => none

namespace Definition

@[simp] theorem name_field (name source : String) (type : TypeExpr) (required : Bool) :
    (field name source type required).name = name := by
  unfold field
  split
  · rfl
  · split <;> rfl

@[simp] theorem sourceName_field (name source : String) (type : TypeExpr) (required : Bool) :
    (field name source type required).sourceName = source := by
  unfold field
  split
  · rfl
  · split <;> rfl

@[simp] theorem required_field (name source : String) (type : TypeExpr) (required : Bool) :
    (field name source type required).required = required := by
  unfold field
  split
  · rfl
  · split <;> rfl

theorem map_name_nameFields (required taken : List String) (typed : List (String × TypeExpr)) :
    (nameFields required taken typed).map (·.name) =
      firstFreeAll taken (typed.map fun p => identifier [] (Text.upperLead p.1)) := by
  induction typed generalizing taken with
  | nil => rfl
  | cons p rest ih => simp only [nameFields, List.map_cons, firstFreeAll, name_field, ih]

theorem map_sourceName_nameFields (required taken : List String)
    (typed : List (String × TypeExpr)) :
    (nameFields required taken typed).map (·.sourceName) = typed.map (·.1) := by
  induction typed generalizing taken with
  | nil => rfl
  | cons p rest ih => simp only [nameFields, List.map_cons, sourceName_field, ih]

theorem eq_field_of_mem_nameFields {required taken : List String}
    {typed : List (String × TypeExpr)} {f : Field} (h : f ∈ nameFields required taken typed) :
    ∃ p ∈ typed, f = field f.name p.1 p.2 (p.1 ∈ required) := by
  induction typed generalizing taken with
  | nil => simp [nameFields] at h
  | cons p rest ih =>
    rcases List.mem_cons.1 h with rfl | h
    · exact ⟨p, List.mem_cons_self, by rw [name_field]⟩
    · obtain ⟨q, hq, hf⟩ := ih h
      exact ⟨q, List.mem_cons_of_mem _ hq, hf⟩

theorem nameFields_padded (required taken : List String) (typed : List (String × TypeExpr)) :
    ∀ f ∈ nameFields required taken typed, Padded (Text.upperLead f.sourceName) f.name := by
  induction typed generalizing taken with
  | nil => simp [nameFields]
  | cons p rest ih =>
    intro f h
    rcases List.mem_cons.1 h with rfl | h
    · rw [name_field, sourceName_field]
      exact firstFree_identifier_padded taken _ _
    · exact ih _ f h

end Definition

namespace Render

def factoryNames (f : Field) : List String :=
  if f.required then [] else f.factory.toList.map fun n => (TypeExpr.moduleOf n).getD n

theorem names_fieldDefault (f : Field) :
    (fieldDefault f).names = "pydantic" :: factoryNames f := by
  unfold fieldDefault factoryNames
  split
  · simp [qualified, text]
  · cases f.factory with
    | none => simp [qualified, text, none]
    | some factory => cases h : TypeExpr.moduleOf factory <;> simp [qualified, text, h]

theorem names_fieldStatement (f : Field) :
    (fieldStatement f).exprs.flatMap Expr.names =
      f.type.lookups ++ "pydantic" :: factoryNames f := by
  simp [fieldStatement, Stmt.exprs, TypeExpr.names_toTarget, names_fieldDefault]

theorem names_modelClass (name : String) (fields : List Field) :
    (modelClass name fields).names = ["pydantic", "model_config", "pydantic"] ++
      fields.flatMap fun f => f.type.lookups ++ "pydantic" :: factoryNames f := by
  simp [Class.names, Class.exprs, modelClass, Member.exprs, List.flatMap_map, List.flatMap_assoc,
    names_fieldStatement, modelConfig, Stmt.exprs, qualified]

theorem mem_lookups_of_mem_names_field {x name source : String} {type : TypeExpr} {required : Bool}
    (h : x ∈ (Definition.field name source type required).type.lookups ++
      factoryNames (Definition.field name source type required)) :
    x ∈ type.lookups ∨ x = "typing" := by
  unfold Definition.field at h
  split at h
  · simp [factoryNames, TypeExpr.lookups_optional] at h
    exact h.symm
  · split at h
    next hkind =>
      have hhead : (TypeExpr.moduleOf type.name).getD type.name = type.headLookup := by
        cases type with
        | mk n kind args =>
          have hne : kind ≠ .reference := by
            rintro rfl
            simp [TypeExpr.kind] at hkind
          simp [TypeExpr.headLookup, TypeExpr.qualifier?, TypeExpr.name, hne]
      have hmem := type.headLookup_mem_lookups
      simp [factoryNames] at h
      rcases h with h | ⟨-, rfl⟩
      · exact .inl h
      · exact .inl (hhead ▸ hmem)
    next =>
      simp [factoryNames] at h
      exact .inl h

theorem alias?_fieldStatement (f : Field) :
    Member.alias? (.stmt (fieldStatement f)) = some (f.name, f.sourceName) := by
  unfold fieldStatement fieldDefault
  split
  · rfl
  · cases f.factory <;> rfl

theorem filterMap_alias?_modelClass (name : String) (fields : List Field) :
    (modelClass name fields).body.filterMap Member.alias? =
      fields.map fun f => (f.name, f.sourceName) := by
  have hmember : (Member.alias? ∘ fun f => .stmt (fieldStatement f)) =
      some ∘ fun f : Field => (f.name, f.sourceName) := by
    funext f
    exact alias?_fieldStatement f
  rw [modelClass, List.filterMap_cons_none rfl, List.filterMap_map, hmember, List.filterMap_eq_map]

end Render

namespace Definition

def typed (properties : List (String × Schema)) : List (String × TypeExpr) :=
  properties.map fun p => (p.1, TypeExpr.ofSchema p.2)

def reserved (properties : List (String × Schema)) : List String :=
  reservedNames ((typed properties).map (·.2))

def fields (properties : List (String × Schema)) (required : List String) : List Field :=
  nameFields required (reserved properties) (typed properties)

theorem ofSchema_object (name : String) (properties : List (String × Schema))
    (required : List String) :
    ofSchema name (.object properties required) = model name (fields properties required) := rfl

theorem lookups_subset_reserved {properties : List (String × Schema)} {p : String × TypeExpr}
    (hp : p ∈ typed properties) {x : String} (hx : x ∈ p.2.lookups) : x ∈ reserved properties := by
  have hall : x ∈ TypeExpr.lookupsAll ((typed properties).map (·.2)) :=
    TypeExpr.mem_lookupsAll.2 ⟨p.2, List.mem_map_of_mem hp, hx⟩
  simp [reserved, reservedNames, hall]

theorem baseAttributes_subset_reserved (properties : List (String × Schema)) :
    baseAttributes ⊆ reserved properties := by
  intro x hx
  simp [reserved, reservedNames, hx]

theorem names_modelClass_subset_reserved (name : String) (properties : List (String × Schema))
    (required : List String) :
    (Render.modelClass name (fields properties required)).names ⊆ reserved properties := by
  have hpydantic : "pydantic" ∈ reserved properties := by simp [reserved, reservedNames]
  have htyping : "typing" ∈ reserved properties := by simp [reserved, reservedNames]
  have hconfig : "model_config" ∈ reserved properties :=
    baseAttributes_subset_reserved properties (by decide)
  intro x hx
  rw [Render.names_modelClass] at hx
  rcases List.mem_append.1 hx with hx | hx
  · simp only [List.mem_cons, List.not_mem_nil, or_false] at hx
    rcases hx with rfl | rfl | rfl
    · exact hpydantic
    · exact hconfig
    · exact hpydantic
  · obtain ⟨f, hf, hx⟩ := List.mem_flatMap.1 hx
    obtain ⟨p, hp, hfield⟩ := eq_field_of_mem_nameFields hf
    have hx : x = "pydantic" ∨ x ∈ f.type.lookups ++ Render.factoryNames f := by
      simpa [or_left_comm] using hx
    rcases hx with rfl | hx
    · exact hpydantic
    · rw [hfield] at hx
      rcases Render.mem_lookups_of_mem_names_field hx with hx | rfl
      · exact lookups_subset_reserved hp hx
      · exact htyping

theorem map_name_fields (properties : List (String × Schema)) (required : List String) :
    (fields properties required).map (·.name) =
      firstFreeAll (reserved properties)
        ((typed properties).map fun p => identifier [] (Text.upperLead p.1)) :=
  map_name_nameFields _ _ _

theorem name_not_mem_reserved (properties : List (String × Schema)) (required : List String) :
    ∀ f ∈ fields properties required, f.name ∉ reserved properties := by
  intro f hf
  have hmem : f.name ∈ (fields properties required).map (·.name) := List.mem_map_of_mem hf
  rw [map_name_fields] at hmem
  exact firstFreeAll_disjoint _ _ _ hmem

theorem name_not_mem_keywords (properties : List (String × Schema)) (required : List String) :
    ∀ f ∈ fields properties required, f.name ∉ keywords := by
  intro f hf
  have hmem : f.name ∈ (fields properties required).map (·.name) := List.mem_map_of_mem hf
  rw [map_name_fields] at hmem
  refine firstFreeAll_not_mem_keywords _ (fun name hname => ?_) _ hmem
  obtain ⟨p, -, rfl⟩ := List.mem_map.1 hname
  exact identifier_not_mem_keywords _ _

theorem nodup_fields (properties : List (String × Schema)) (required : List String) :
    ((fields properties required).map (·.name)).Nodup := by
  rw [map_name_fields]
  exact firstFreeAll_nodup _ _

/-- Whatever the properties of an object are called, its model has one field for each, under a
name that hides nothing the class needs. -/
theorem ofSchema_object_safe (name : String) (properties : List (String × Schema))
    (required : List String) :
    ∃ fields c, ofSchema name (.object properties required) = model name fields ∧
      Render.definition (ofSchema name (.object properties required)) = .classDef c ∧
      (fields.map (·.name)).Nodup ∧
      (∀ f ∈ fields,
        f.name ∉ keywords ∧ f.name ∉ baseAttributes ∧ f.name ≠ "Config" ∧ f.name ∉ c.names ∧
          Padded (Text.upperLead f.sourceName) f.name) ∧
      fields.map (·.sourceName) = properties.map (·.1) ∧
      c.body.filterMap Member.alias? = fields.map fun f => (f.name, f.sourceName) := by
  refine ⟨fields properties required, Render.modelClass name (fields properties required),
    ofSchema_object name properties required, rfl, nodup_fields properties required,
    fun f hf => ?_, ?_, Render.filterMap_alias?_modelClass _ _⟩
  · have hfree := name_not_mem_reserved properties required f hf
    refine ⟨name_not_mem_keywords _ _ f hf, ?_, ?_, ?_, nameFields_padded _ _ _ f hf⟩
    · exact fun h => hfree (baseAttributes_subset_reserved properties h)
    · intro h
      apply hfree
      simp [h, reserved, reservedNames]
    · exact fun h => hfree (names_modelClass_subset_reserved name properties required h)
  · rw [fields, map_sourceName_nameFields, typed, List.map_map]
    rfl

end Definition

end TypedClient
