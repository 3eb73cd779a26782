import Mathlib.Data.List.Perm.Subperm
import TypedClient.Plan
import TypedClient.Proofs.Naming

namespace TypedClient.Plan

theorem map_name_nameParameters (taken : List String) (parameters : List Parameter) :
    (nameParameters taken parameters).map (·.name) =
      firstFreeAll taken (parameters.map fun p => parameterName p.name) := by
  induction parameters generalizing taken with
  | nil => rfl
  | cons p rest ih => simp only [nameParameters, List.map_cons, firstFreeAll, ih]

def declared (p : PlannedParameter) : String × Role × TypeExpr := (p.sourceName, p.role, p.type)

def toDeclared (p : Parameter) : String × Role × TypeExpr := (p.name, role p.location, plannedType p)

theorem filter_nameParameters (taken : List String) (r : Role) (parameters : List Parameter) :
    ((nameParameters taken parameters).filter (·.role = r)).map declared =
      (parameters.filter (role ·.location = r)).map toDeclared := by
  induction parameters generalizing taken with
  | nil => rfl
  | cons p rest ih =>
    by_cases h : role p.location = r
    · simp [nameParameters, h, ih, declared, toDeclared]
    · simp [nameParameters, h, ih]

theorem nameParameters_padded (taken : List String) (parameters : List Parameter) :
    ∀ p ∈ nameParameters taken parameters, Padded (Text.lowerLead p.sourceName) p.name := by
  induction parameters generalizing taken with
  | nil => simp [nameParameters]
  | cons p rest ih =>
    intro q h
    rcases List.mem_cons.1 h with rfl | h
    · exact firstFree_identifier_padded taken _ _
    · exact ih _ q h

def reserved (endpoint : Endpoint) : List String :=
  reservedNames (Content.responseType? endpoint.responses)

def claims (endpoint : Endpoint) : List String :=
  firstFreeAll (reserved endpoint)
    (bodyName :: endpoint.parameters.map fun p => parameterName p.name)

def bodyClaim (endpoint : Endpoint) : String := firstFree (reserved endpoint) bodyName

def named (endpoint : Endpoint) : List PlannedParameter :=
  nameParameters (bodyClaim endpoint :: reserved endpoint) endpoint.parameters

theorem claims_eq (endpoint : Endpoint) :
    claims endpoint = bodyClaim endpoint :: (named endpoint).map (·.name) := by
  rw [named, map_name_nameParameters]
  rfl

theorem pathParameters_ofEndpoint (endpoint : Endpoint) :
    (ofEndpoint endpoint).pathParameters = (named endpoint).filter (·.role = .path) := rfl

theorem queryParameters_ofEndpoint (endpoint : Endpoint) :
    (ofEndpoint endpoint).queryParameters = (named endpoint).filter (·.role = .query) := rfl

theorem returnType_ofEndpoint (endpoint : Endpoint) :
    (ofEndpoint endpoint).returnType = Content.responseType? endpoint.responses := rfl

theorem role_nameParameters (taken : List String) (parameters : List Parameter) :
    ∀ p ∈ nameParameters taken parameters, p.role = .path ∨ p.role = .query := by
  induction parameters generalizing taken with
  | nil => simp [nameParameters]
  | cons p rest ih =>
    intro q h
    rcases List.mem_cons.1 h with rfl | h
    · cases p.location <;> simp [role]
    · exact ih _ q h

theorem pathParameters_append_queryParameters_perm (endpoint : Endpoint) :
    ((ofEndpoint endpoint).pathParameters ++ (ofEndpoint endpoint).queryParameters).Perm
      (named endpoint) := by
  have hquery : (named endpoint).filter (·.role = .query) =
      (named endpoint).filter fun p => !decide (p.role = .path) := by
    apply List.filter_congr
    intro p hp
    rcases role_nameParameters _ _ p hp with h | h <;> simp [h]
  rw [pathParameters_ofEndpoint, queryParameters_ofEndpoint, hquery]
  exact List.filter_append_perm _ _

theorem map_name_body_sublist (endpoint : Endpoint) :
    ((ofEndpoint endpoint).body.toList.map (·.name)).Sublist [bodyClaim endpoint] := by
  simp only [ofEndpoint]
  split
  · exact List.nil_sublist _
  · exact List.Sublist.refl _

theorem map_name_parameters_subperm (endpoint : Endpoint) :
    ((ofEndpoint endpoint).parameters.map (·.name)).Subperm (claims endpoint) := by
  have hperm := (pathParameters_append_queryParameters_perm endpoint).map (·.name)
  -- without a body its name is claimed all the same
  have hbody := map_name_body_sublist endpoint
  have hsub := (hperm.append_right _).subperm.trans
    ((List.Sublist.refl ((named endpoint).map (·.name))).append hbody).subperm
  rw [claims_eq, parameters, List.map_append]
  exact hsub.trans (List.perm_append_singleton _ _).subperm

theorem nodup_parameters (endpoint : Endpoint) :
    ((ofEndpoint endpoint).parameters.map (·.name)).Nodup := by
  obtain ⟨names, hperm, hsub⟩ := map_name_parameters_subperm endpoint
  exact hperm.nodup_iff.1 ((firstFreeAll_nodup _ _).sublist hsub)

theorem name_mem_claims {endpoint : Endpoint} {p : PlannedParameter}
    (hp : p ∈ (ofEndpoint endpoint).parameters) : p.name ∈ claims endpoint :=
  (map_name_parameters_subperm endpoint).subset (List.mem_map_of_mem hp)

theorem name_not_mem_reserved (endpoint : Endpoint) :
    ∀ p ∈ (ofEndpoint endpoint).parameters, p.name ∉ reserved endpoint :=
  fun _ hp => firstFreeAll_disjoint _ _ _ (name_mem_claims hp)

/-- The parameters are apart from each other and from what the method body needs. -/
structure Safe (plan : Plan) : Prop where
  nodup : (plan.parameters.map (·.name)).Nodup
  not_local : ∀ p ∈ plan.parameters, p.name ∉ ["self", "_path", "_query"]
  not_lookup : ∀ p ∈ plan.parameters, ∀ t, plan.returnType = some t → p.name ∉ t.lookups

theorem Safe.nodup_self {plan : Plan} (hsafe : plan.Safe) :
    ("self" :: plan.parameters.map (·.name)).Nodup := by
  refine List.nodup_cons.2 ⟨fun h => ?_, hsafe.nodup⟩
  obtain ⟨p, hp, hself⟩ := List.mem_map.1 h
  exact hsafe.not_local p hp (by simp [hself])

theorem safe_ofEndpoint (endpoint : Endpoint) : (ofEndpoint endpoint).Safe := by
  refine ⟨nodup_parameters endpoint, fun p hp h => ?_, fun p hp t ht h => ?_⟩
  · exact name_not_mem_reserved endpoint p hp (List.mem_append_left _ h)
  · rw [returnType_ofEndpoint] at ht
    have hfree := name_not_mem_reserved endpoint p hp
    simp only [reserved, reservedNames, ht] at hfree
    exact hfree (List.mem_append_right _ h)

theorem name_not_mem_keywords (endpoint : Endpoint) :
    ∀ p ∈ (ofEndpoint endpoint).parameters, p.name ∉ keywords := by
  intro p hp
  refine firstFreeAll_not_mem_keywords (reserved endpoint) ?_ p.name (name_mem_claims hp)
  rw [List.forall_mem_cons]
  refine ⟨by decide, fun name hname => ?_⟩
  obtain ⟨q, -, rfl⟩ := List.mem_map.1 hname
  exact identifier_not_mem_keywords _ _

theorem map_declared_pathParameters (endpoint : Endpoint) :
    (ofEndpoint endpoint).pathParameters.map declared =
      (endpoint.parameters.filter (·.location = .path)).map toDeclared := by
  rw [pathParameters_ofEndpoint, named, filter_nameParameters]
  congr 2
  funext p
  cases p.location <;> rfl

theorem map_declared_queryParameters (endpoint : Endpoint) :
    (ofEndpoint endpoint).queryParameters.map declared =
      (endpoint.parameters.filter (·.location = .query)).map toDeclared := by
  rw [queryParameters_ofEndpoint, named, filter_nameParameters]
  congr 2
  funext p
  cases p.location <;> rfl

/-- Whatever the declared names are, those of the plan can stand side by side in a signature and
hide nothing that the method body looks up. -/
theorem parameters_safe (endpoint : Endpoint) :
    ((ofEndpoint endpoint).parameters.map (·.name)).Nodup ∧
      (∀ p ∈ (ofEndpoint endpoint).parameters,
        p.name ∉ ["self", "_path", "_query"] ∧ p.name ∉ keywords ∧
          ∀ t, (ofEndpoint endpoint).returnType = some t → p.name ∉ t.lookups) ∧
      (∀ p ∈ (ofEndpoint endpoint).pathParameters ++ (ofEndpoint endpoint).queryParameters,
        Padded (Text.lowerLead p.sourceName) p.name) ∧
      (ofEndpoint endpoint).pathParameters.map declared =
        (endpoint.parameters.filter (·.location = .path)).map toDeclared ∧
      (ofEndpoint endpoint).queryParameters.map declared =
        (endpoint.parameters.filter (·.location = .query)).map toDeclared := by
  have hsafe := safe_ofEndpoint endpoint
  refine ⟨hsafe.nodup, fun p hp => ⟨hsafe.not_local p hp, name_not_mem_keywords endpoint p hp,
    hsafe.not_lookup p hp⟩, fun p hp => ?_, map_declared_pathParameters endpoint,
    map_declared_queryParameters endpoint⟩
  have hnamed := (pathParameters_append_queryParameters_perm endpoint).subset hp
  exact nameParameters_padded _ _ p hnamed

example :
    let text := Schema.primitive "string" none
    let named := fun name => Parameter.mk name .query text false
    let endpoint : Endpoint :=
      { path := "/", method := "get", parameters := ["Id", "id", "self", "body", "_path"].map named }
    (ofEndpoint endpoint).parameters.map (·.name) = ["id", "id_", "self_", "body_", "_path_"] := by
  decide +kernel

end TypedClient.Plan
