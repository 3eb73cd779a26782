import TypedClient.Proofs.ParameterNames

namespace TypedClient

inductive Inserted : List (String × Content) → List (String × Content) → Prop
  | nil : Inserted [] []
  | kept (response : String × Content) {before after : List (String × Content)} :
      Inserted before after → Inserted (response :: before) (response :: after)
  | added {status : String} (content : Content) {before after : List (String × Content)} :
      status.toList.head? ≠ some '2' → Inserted before after →
        Inserted before ((status, content) :: after)

theorem Content.success?_inserted {before after : List (String × Content)}
    (h : Inserted before after) : success? after = success? before := by
  unfold success?
  induction h with
  | nil => rfl
  | kept response h ih =>
    by_cases hstatus : response.1.toList.head? = some '2'
    · rw [List.find?_cons_of_pos (by simpa using hstatus),
        List.find?_cons_of_pos (by simpa using hstatus)]
    · rw [List.find?_cons_of_neg (by simpa using hstatus),
        List.find?_cons_of_neg (by simpa using hstatus), ih]
  | added content hstatus h ih => rw [List.find?_cons_of_neg (by simpa using hstatus), ih]

/-- The second endpoint is the first with these further parameters, any body and further
responses. -/
structure Endpoint.Extends (endpoint : Endpoint) (more : List Parameter) (extended : Endpoint) :
    Prop where
  path : extended.path = endpoint.path
  method : extended.method = endpoint.method
  operationId : extended.operationId = endpoint.operationId
  parameters : extended.parameters = endpoint.parameters ++ more
  responses : Inserted endpoint.responses extended.responses

namespace Plan

def takenAfter (taken : List String) : List Parameter → List String
  | [] => taken
  | p :: rest => takenAfter (firstFree taken (parameterName p.name) :: taken) rest

theorem nameParameters_append (taken : List String) (first more : List Parameter) :
    nameParameters taken (first ++ more) =
      nameParameters taken first ++ nameParameters (takenAfter taken first) more := by
  induction first generalizing taken with
  | nil => rfl
  | cons p rest ih => simp only [List.cons_append, nameParameters, takenAfter, ih]

variable {endpoint extended : Endpoint} {more : List Parameter}
  (h : endpoint.Extends more extended)

include h

theorem returnType_extends :
    (ofEndpoint extended).returnType = (ofEndpoint endpoint).returnType := by
  rw [returnType_ofEndpoint, returnType_ofEndpoint, Content.responseType?, Content.responseType?,
    Content.success?_inserted h.responses]

theorem reserved_extends : reserved extended = reserved endpoint :=
  congrArg reservedNames (returnType_extends h)

theorem bodyClaim_extends : bodyClaim extended = bodyClaim endpoint := by
  rw [bodyClaim, bodyClaim, reserved_extends h]

theorem named_extends :
    ∃ added, named extended = named endpoint ++ added ∧
      ∀ r, (added.filter (·.role = r)).map declared =
        (more.filter (role ·.location = r)).map toDeclared := by
  refine ⟨nameParameters (takenAfter (bodyClaim endpoint :: reserved endpoint) endpoint.parameters)
    more, ?_, fun r => filter_nameParameters _ r more⟩
  rw [named, named, bodyClaim_extends h, reserved_extends h, h.parameters, nameParameters_append]

omit h in
theorem name_of_mem_body {body : PlannedParameter} (hbody : body ∈ (ofEndpoint endpoint).body) :
    body.name = bodyClaim endpoint := by
  have hsublist := (map_name_body_sublist endpoint).subset
    (List.mem_map_of_mem (Option.mem_toList.2 hbody))
  exact List.mem_singleton.1 hsublist

/-- However an endpoint grows, its method keeps its name, its return type and its parameters, which
stand before all further ones of their kind; a body that stays keeps its name. -/
theorem ofEndpoint_extends :
    (ofEndpoint extended).methodName = (ofEndpoint endpoint).methodName ∧
      (ofEndpoint extended).returnType = (ofEndpoint endpoint).returnType ∧
      (∃ paths queries,
        (ofEndpoint extended).pathParameters = (ofEndpoint endpoint).pathParameters ++ paths ∧
        (ofEndpoint extended).queryParameters = (ofEndpoint endpoint).queryParameters ++ queries ∧
        paths.map declared = (more.filter (role ·.location = .path)).map toDeclared ∧
        queries.map declared = (more.filter (role ·.location = .query)).map toDeclared) ∧
      ((ofEndpoint endpoint).pathParameters ++ (ofEndpoint endpoint).queryParameters).Sublist
        (ofEndpoint extended).parameters ∧
      ∀ body ∈ (ofEndpoint endpoint).body, ∀ body' ∈ (ofEndpoint extended).body,
        body'.name = body.name := by
  obtain ⟨added, hnamed, hdeclared⟩ := named_extends h
  have hpaths : (ofEndpoint extended).pathParameters =
      (ofEndpoint endpoint).pathParameters ++ added.filter (·.role = .path) := by
    rw [pathParameters_ofEndpoint, hnamed, List.filter_append]
    rfl
  have hqueries : (ofEndpoint extended).queryParameters =
      (ofEndpoint endpoint).queryParameters ++ added.filter (·.role = .query) := by
    rw [queryParameters_ofEndpoint, hnamed, List.filter_append]
    rfl
  refine ⟨?_, returnType_extends h, ⟨_, _, hpaths, hqueries, hdeclared .path, hdeclared .query⟩, ?_,
    fun body hbody body' hbody' => ?_⟩
  · simp only [ofEndpoint, h.path, h.method, h.operationId]
  · rw [parameters, hpaths, hqueries]
    exact ((List.sublist_append_left _ _).append (List.sublist_append_left _ _)).trans
      (List.sublist_append_left _ _)
  · rw [name_of_mem_body hbody, name_of_mem_body hbody', bodyClaim_extends h]

omit h in
theorem ofEndpoint_extends_returning :
    let text := Schema.primitive "string" none
    let endpoint : Endpoint :=
      { path := "/a/{Id}", method := "get", parameters := [⟨"Id", .path, text, true⟩]
        requestBody := some [("application/json", text)]
        responses := [("200", [("application/json", .reference "body")])] }
    let extended : Endpoint :=
      { endpoint with
        parameters := endpoint.parameters
          ++ [⟨"id", .path, text, true⟩, ⟨"body", .query, text, false⟩]
        requestBody := some [("application/json", .untyped)]
        responses := ("404", []) :: endpoint.responses ++ [("default", [])] }
    endpoint.Extends [⟨"id", .path, text, true⟩, ⟨"body", .query, text, false⟩] extended ∧
      (ofEndpoint extended).returnType = (ofEndpoint endpoint).returnType ∧
      (ofEndpoint endpoint).parameters.map (·.name) = ["id", "body_"] ∧
      (ofEndpoint extended).parameters.map (·.name) = ["id", "id_", "body__", "body_"] := by
  intro text endpoint extended
  have h : endpoint.Extends [⟨"id", .path, text, true⟩, ⟨"body", .query, text, false⟩] extended :=
    { path := rfl
      method := rfl
      operationId := rfl
      parameters := rfl
      responses := .added _ (by decide) (.kept _ (.added _ (by decide) .nil)) }
  exact ⟨h, (ofEndpoint_extends h).2.1, by decide +kernel, by decide +kernel⟩

end Plan

end TypedClient
