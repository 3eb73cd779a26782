import TypedClient.Proofs.Sorted
import TypedClient.Proofs.TypePlaces

namespace TypedClient

open Target

theorem Text.sorted_eq_nil {xs : List String} : sorted xs = [] ↔ xs = [] := by
  simp only [List.eq_nil_iff_forall_not_mem, mem_sorted]

theorem Warning.repeated_eq_nil {names : List String} : repeated names = [] ↔ names.Nodup := by
  rw [repeated, Text.sorted_eq_nil, List.filter_eq_nil_iff, List.nodup_iff_count_le_one]
  refine ⟨fun h name => ?_, fun h name _ => by simpa using h name⟩
  by_cases hmem : name ∈ names
  · simpa using h name hmem
  · simp [List.count_eq_zero_of_not_mem hmem]

namespace Spec

variable {spec : Spec} {options : Options}

theorem warnings_eq_nil_iff :
    spec.warnings options = [] ↔
      (spec.plans.map (·.methodName)).Nodup ∧
        (∀ name ∈ spec.schemaNames, name ∉ reservedNames options) ∧
          ∀ name ∈ spec.referencedNames, name ∈ spec.schemaNames := by
  have hlist : ∀ (xs : List String) (w : Warning),
      (if xs.isEmpty then [] else [w]) = [] ↔ xs = [] := by
    intro xs w
    cases xs <;> simp
  rw [warnings, List.append_eq_nil_iff, List.append_eq_nil_iff, hlist, hlist, hlist,
    Warning.repeated_eq_nil, Text.sorted_eq_nil, Text.sorted_eq_nil, List.filter_eq_nil_iff,
    List.filter_eq_nil_iff, and_assoc]
  simp only [decide_eq_true_eq, not_not]

def Reports (spec : Spec) (options : Options) (name : String) : Prop :=
  ∃ names, Warning.missingSchemas names ∈ spec.warnings options ∧ name ∈ names

theorem missingSchemas_mem_warnings {names : List String} :
    Warning.missingSchemas names ∈ spec.warnings options ↔
      names ≠ [] ∧
        names = Text.sorted (spec.referencedNames.filter (· ∉ spec.schemaNames)) := by
  simp only [warnings, List.mem_append]
  constructor
  · rintro ((h | h) | h)
    · split at h <;> simp at h
    · split at h <;> simp at h
    · split at h
      next => simp at h
      next hne =>
        obtain rfl := Warning.missingSchemas.inj (List.mem_singleton.1 h)
        exact ⟨by simpa using hne, rfl⟩
  · rintro ⟨hne, rfl⟩
    have hempty := mt List.isEmpty_iff.1 hne
    exact .inr (by rw [if_neg hempty]; exact List.mem_singleton_self _)

theorem reports_iff {name : String} :
    spec.Reports options name ↔ name ∈ spec.referencedNames ∧ name ∉ spec.schemaNames := by
  have hmem : name ∈ Text.sorted (spec.referencedNames.filter (· ∉ spec.schemaNames)) ↔
      name ∈ spec.referencedNames ∧ name ∉ spec.schemaNames := by
    simp
  constructor
  · rintro ⟨names, hwarning, hname⟩
    obtain ⟨-, rfl⟩ := missingSchemas_mem_warnings.1 hwarning
    exact hmem.1 hname
  · intro h
    exact ⟨_, missingSchemas_mem_warnings.2 ⟨List.ne_nil_of_mem (hmem.2 h), rfl⟩, hmem.2 h⟩

theorem name_ofSchema (name : String) (s : Schema) : (Definition.ofSchema name s).name = name := by
  cases s <;> rfl

theorem map_name_definitions (spec : Spec) :
    spec.definitions.map Definition.name = spec.definedSchemas.map (·.1) := by
  simp [definitions, name_ofSchema]

theorem mem_schemaNames {name : String} :
    name ∈ spec.schemaNames ↔
      (name, none) ∈ spec.schemas ∨ name ∈ spec.definitions.map Definition.name := by
  rw [map_name_definitions]
  constructor
  · intro h
    obtain ⟨⟨n, s⟩, hmem, rfl⟩ := List.mem_map.1 h
    cases s with
    | none => exact .inl hmem
    | some s => exact .inr (List.mem_map.2 ⟨(n, s), List.mem_filterMap.2 ⟨_, hmem, rfl⟩, rfl⟩)
  · rintro (h | h)
    · exact List.mem_map_of_mem h
    · obtain ⟨⟨n, s⟩, hmem, rfl⟩ := List.mem_map.1 h
      obtain ⟨⟨n', s'⟩, hentry, heq⟩ := List.mem_filterMap.1 hmem
      obtain ⟨s'', rfl, hpair⟩ := Option.map_eq_some_iff.1 heq
      cases hpair
      exact List.mem_map_of_mem hentry

/-- All types in the module are made from types whose references are defined or reported, as long
as none of these is an entry without a schema. -/
theorem references_reported_iff (spec : Spec) (options : Options) :
    (∀ e ∈ (spec.module options).typePlaces, spec.Place e) ∧
      ((∀ t ∈ spec.types, ∀ name ∈ t.references,
          name ∈ spec.definitions.map Definition.name ∨ spec.Reports options name) ↔
        ∀ t ∈ spec.types, ∀ name ∈ t.references, (name, none) ∈ spec.schemas →
          name ∈ spec.definitions.map Definition.name) := by
  refine ⟨fun e he => place_of_mem he, fun h t ht name hname hentry => ?_,
    fun h t ht name hname => ?_⟩
  · refine (h t ht name hname).resolve_right fun hreports => ?_
    exact (reports_iff.1 hreports).2 (mem_schemaNames.2 (.inl hentry))
  · by_cases hentry : name ∈ spec.schemaNames
    · exact .inl ((mem_schemaNames.1 hentry).elim (h t ht name hname) id)
    · exact .inr (reports_iff.2 ⟨spec.references_types_subset ht hname, hentry⟩)

def emptyEntry : Spec :=
  { schemas := [("Pet", some (.object [("owner", .reference "Owner")] [])), ("Owner", none)] }

theorem emptyEntry_unreported :
    emptyEntry.warnings {} = [] ∧
      (∃ t ∈ emptyEntry.types, "Owner" ∈ t.references) ∧
      "Owner" ∉ emptyEntry.definitions.map Definition.name ∧
      ¬emptyEntry.Reports {} "Owner" := by
  have hwarnings : emptyEntry.warnings {} = [] := by decide +kernel
  refine ⟨hwarnings, ?_, by decide +kernel, ?_⟩
  · refine ⟨(TypeExpr.mk "Owner" .reference []).optional, ?_, by decide⟩
    exact List.mem_cons_self
  · rintro ⟨names, hmem, -⟩
    rw [hwarnings] at hmem
    cases hmem

end Spec

end TypedClient
