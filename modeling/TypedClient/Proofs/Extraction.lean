import TypedClient.Extract
import TypedClient.Proofs.Outcome
import TypedClient.Proofs.Reference

/-!
Which objects of a document are followed for what a client needs of it. Extraction fails by a
pointer exactly if one of these cannot be followed; else it gives an endpoint for each operation and
an entry for each schema, in their order.
-/

namespace TypedClient

namespace Extract

/-! The parts of a document that are looked at. -/

def objects (v : Option Value) : List Entries := (items v).filterMap Value.entries?

def pathItems (document : Value) : List (String × Entries) :=
  ((document.get? "paths" >>= Value.entries?).getD []).filterMap fun
    | (.text path, item) => item.entries?.map (path, ·)
    | _ => none

def componentSchemas (document : Value) : List (String × Value) :=
  ((document.get? "components" >>= Value.get? "schemas" >>= Value.entries?).getD []).filterMap fun
    | (.text name, schema) => some (name, schema)
    | _ => none

def methods (item : Entries) : List (String × Entries) :=
  verbs.filterMap fun verb => ((Value.lookup verb item).bind Value.entries?).map (verb, ·)

/-- An operation and the path item that it belongs to. -/
structure Operation where
  path : String
  verb : String
  item : Entries
  entries : Entries

def itemOperations (document : Linked) (path : String) (raw : Entries) : List Operation :=
  match follow document raw with
  | .error _ => []
  | .ok item => (methods item).map fun (verb, entries) => ⟨path, verb, item, entries⟩

def operations (document : Value) : List Operation :=
  (pathItems document).flatMap fun (path, raw) => itemOperations (.ofValue document) path raw

namespace Operation

def parameters (o : Operation) : List Entries :=
  objects (Value.lookup "parameters" o.item) ++ objects (Value.lookup "parameters" o.entries)

def body? (o : Operation) : Option Entries :=
  (Value.lookup "requestBody" o.entries).bind Value.entries?

def responses (o : Operation) : List (Scalar × Entries) :=
  (((Value.lookup "responses" o.entries).bind Value.entries?).getD []).filterMap
    fun (status, response) => response.entries?.map (status, ·)

def asked (o : Operation) : List Entries :=
  o.parameters ++ o.body?.toList ++ o.responses.map (·.2)

end Operation

def asked (document : Value) : List Entries :=
  (pathItems document).map (·.2) ++ (operations document).flatMap Operation.asked

/-- What a validated document keeps to: the place of a parameter is no collection, and no status of
a response is a number that is too long to be written out. -/
structure Plain (document : Value) : Prop where
  places : ∀ o ∈ operations document, ∀ raw ∈ o.parameters,
    ∀ p ∈ (follow (.ofValue document) raw).toOption, ∀ v ∈ Value.lookup "in" p,
      v.isList = false ∧ v.isMap = false
  statuses : ∀ o ∈ operations document, ∀ r ∈ o.responses, r.1.isWritable = true

variable {document : Linked} {e : ExtractError}

/-! How each part fails and succeeds. -/

theorem follow_eq_ok {raw entries : Entries} :
    follow document raw = .ok entries ↔ document.follow raw = .ok entries :=
  Outcome.mapError_eq_ok

theorem follow_eq_error {raw : Entries} :
    follow document raw = .error e ↔ ∃ e', document.follow raw = .error e' ∧ e = .reference e' :=
  Outcome.mapError_eq_error

theorem parameter?_eq_error {p : Entries} (h : parameter? p = .error e) :
    ∃ v ∈ Value.lookup "in" p, v.isList = true ∨ v.isMap = true := by
  unfold parameter? at h
  split at h
  next => cases h
  next name _ =>
    rcases Outcome.bind_eq_error.1 h with hplace | ⟨place, -, h⟩
    · unfold location at hplace
      split at hplace
      next => cases hplace
      next => cases hplace
      next v _ _ hv =>
        refine ⟨v, hv, ?_⟩
        split at hplace
        next hlist => exact .inl hlist
        next =>
          split at hplace
          next hmap => exact .inr hmap
          next => cases hplace
      next => cases hplace
    · cases h

def response (document : Linked) (r : Scalar × Entries) :
    Except ExtractError (String × Content) := do
  let entries ← follow document r.2
  if r.1.isWritable then .ok (r.1.plain, (content? (Value.lookup "content" entries)).getD [])
  else .error .longInteger

theorem responses_eq (document : Linked) (o : Operation) :
    responses document (Value.lookup "responses" o.entries) = do
      let followed ← o.responses.mapM (response document)
      return followed.foldl (fun found (status, content) => setResponse status content found)
        [] := by
  have hresponse : response document = fun r => do
      let content := content? (Value.lookup "content" (← follow document r.2))
      if !r.1.isWritable then throw .longInteger
      return (r.1.plain, content.getD []) := by
    funext r
    unfold response
    cases follow document r.2 with
    | error e => rfl
    | ok entries => cases hstatus : r.1.isWritable <;> rfl
  rw [hresponse]
  rfl

theorem exists_of_responses_eq_error {o : Operation}
    (h : responses document (Value.lookup "responses" o.entries) = .error e) :
    ∃ r ∈ o.responses,
      follow document r.2 = .error e ∨ r.1.isWritable = false ∧ e = .longInteger := by
  rw [responses_eq] at h
  rcases Outcome.bind_eq_error.1 h with h | ⟨followed, -, h⟩
  · obtain ⟨r, hr, h⟩ := Outcome.exists_of_mapM_eq_error h
    refine ⟨r, hr, ?_⟩
    rcases Outcome.bind_eq_error.1 h with h | ⟨entries, -, h⟩
    · exact .inl h
    · split at h
      next => cases h
      next hstatus =>
        obtain rfl := Except.error.inj h
        exact .inr ⟨by simpa using hstatus, rfl⟩
  · cases h

theorem exists_follow_of_responses_eq_ok {o : Operation} {given : List (String × Content)}
    (h : responses document (Value.lookup "responses" o.entries) = .ok given) :
    ∀ r ∈ o.responses, ∃ entries, follow document r.2 = .ok entries := by
  intro r hr
  rw [responses_eq] at h
  obtain ⟨followed, h, -⟩ := Outcome.bind_eq_ok.1 h
  obtain ⟨reply, -, h⟩ := Outcome.exists_ok_of_mem h hr
  obtain ⟨entries, h, -⟩ := Outcome.bind_eq_ok.1 h
  exact ⟨entries, h⟩

theorem exists_of_requestBody_eq_error {o : Operation}
    (h : requestBody document (Value.lookup "requestBody" o.entries) = .error e) :
    ∃ raw ∈ o.body?, follow document raw = .error e := by
  unfold requestBody at h
  split at h
  next raw hraw =>
    rcases Outcome.bind_eq_error.1 h with h | ⟨entries, -, h⟩
    · exact ⟨raw, hraw, h⟩
    · cases h
  next => cases h

theorem exists_follow_of_requestBody_eq_ok {o : Operation} {content : Option Content}
    (h : requestBody document (Value.lookup "requestBody" o.entries) = .ok content) :
    ∀ raw ∈ o.body?, ∃ entries, follow document raw = .ok entries := by
  intro raw hraw
  unfold requestBody at h
  rw [show (Value.lookup "requestBody" o.entries).bind Value.entries? = some raw from hraw] at h
  obtain ⟨entries, h, -⟩ := Outcome.bind_eq_ok.1 h
  exact ⟨entries, h⟩

theorem endpoint_eq (document : Linked) (o : Operation) :
    endpoint document o.path o.verb o.item o.entries = do
      let followed ← o.parameters.mapM (follow document)
      let parameters ← mergeParameters followed
      let requestBody ← requestBody document (Value.lookup "requestBody" o.entries)
      let responses ← responses document (Value.lookup "responses" o.entries)
      return {
        path := o.path
        method := Text.upper o.verb
        operationId := (text? "operationId" o.entries).filter (· ≠ "")
        parameters
        requestBody
        responses
        tags := tags (Value.lookup "tags" o.entries) } := by
  unfold endpoint
  rw [Operation.parameters, List.mapM_append]
  simp only [bind_assoc, pure_bind]
  rfl

theorem endpoint_eq_error {o : Operation}
    (h : endpoint document o.path o.verb o.item o.entries = .error e) :
    (∃ raw ∈ o.asked, follow document raw = .error e) ∨
      (∃ raw ∈ o.parameters, ∃ p, follow document raw = .ok p ∧ parameter? p = .error e) ∨
        ∃ r ∈ o.responses, r.1.isWritable = false := by
  rw [endpoint_eq] at h
  rcases Outcome.bind_eq_error.1 h with h | ⟨followed, hfollowed, h⟩
  · obtain ⟨raw, hraw, hfail⟩ := Outcome.exists_of_mapM_eq_error h
    exact .inl ⟨raw, List.mem_append_left _ (List.mem_append_left _ hraw), hfail⟩
  rcases Outcome.bind_eq_error.1 h with h | ⟨parameters, -, h⟩
  · rcases Outcome.bind_eq_error.1 h with h | ⟨merged, -, h⟩
    · obtain ⟨p, hp, hfail⟩ := Outcome.exists_of_mapM_eq_error h
      obtain ⟨raw, hraw, hfollow⟩ := Outcome.exists_of_mem_ok hfollowed hp
      exact .inr (.inl ⟨raw, hraw, p, hfollow, hfail⟩)
    · cases h
  rcases Outcome.bind_eq_error.1 h with h | ⟨body, -, h⟩
  · obtain ⟨raw, hraw, hfail⟩ := exists_of_requestBody_eq_error h
    refine .inl ⟨raw, List.mem_append_left _ (List.mem_append_right _ ?_), hfail⟩
    exact Option.mem_toList.2 hraw
  rcases Outcome.bind_eq_error.1 h with h | ⟨responses, -, h⟩
  · obtain ⟨r, hr, hfail | ⟨hstatus, -⟩⟩ := exists_of_responses_eq_error h
    · exact .inl ⟨r.2, List.mem_append_right _ (List.mem_map_of_mem hr), hfail⟩
    · exact .inr (.inr ⟨r, hr, hstatus⟩)
  cases h

theorem endpoint_eq_ok {o : Operation} {endpoint : Endpoint}
    (h : Extract.endpoint document o.path o.verb o.item o.entries = .ok endpoint) :
    (∀ raw ∈ o.asked, ∃ entries, follow document raw = .ok entries) ∧
      (endpoint.path, endpoint.method) = (o.path, Text.upper o.verb) := by
  rw [endpoint_eq] at h
  obtain ⟨followed, hparameters, h⟩ := Outcome.bind_eq_ok.1 h
  obtain ⟨parameters, -, h⟩ := Outcome.bind_eq_ok.1 h
  obtain ⟨body, hbody, h⟩ := Outcome.bind_eq_ok.1 h
  obtain ⟨responses, hresponses, h⟩ := Outcome.bind_eq_ok.1 h
  obtain rfl := Except.ok.inj h
  refine ⟨fun raw hraw => ?_, rfl⟩
  rcases List.mem_append.1 hraw with hraw | hraw
  · rcases List.mem_append.1 hraw with hraw | hraw
    · obtain ⟨entries, -, hfollow⟩ := Outcome.exists_ok_of_mem hparameters hraw
      exact ⟨entries, hfollow⟩
    · exact exists_follow_of_requestBody_eq_ok hbody raw (Option.mem_toList.1 hraw)
  · obtain ⟨r, hr, rfl⟩ := List.mem_map.1 hraw
    exact exists_follow_of_responses_eq_ok hresponses r hr

/-! The path items and the whole document. -/

theorem itemOperations_eq {path : String} {raw item : Entries}
    (h : follow document raw = .ok item) :
    itemOperations document path raw =
      (methods item).map fun (verb, entries) => ⟨path, verb, item, entries⟩ := by
  rw [itemOperations, h]

theorem pathEndpoints_eq {path : String} {raw item : Entries}
    (h : follow document raw = .ok item) :
    pathEndpoints document path raw =
      (itemOperations document path raw).mapM fun o =>
        endpoint document o.path o.verb o.item o.entries := by
  rw [pathEndpoints, h, itemOperations_eq h, List.mapM_map]
  rfl

theorem endpoints_eq {document : Value} {paths : Entries}
    (h : document.get? "paths" >>= Value.entries? = some paths) :
    endpoints (.ofValue document) paths = do
      let found ← (pathItems document).mapM fun (path, raw) =>
        pathEndpoints (.ofValue document) path raw
      return found.flatten := by
  rw [pathItems, h]
  rfl

section

variable {document : Value} {paths : Entries}

theorem mem_operations {path : String} {raw : Entries} (hraw : (path, raw) ∈ pathItems document)
    {o : Operation} (ho : o ∈ itemOperations (.ofValue document) path raw) :
    o ∈ operations document :=
  List.mem_flatMap.2 ⟨_, hraw, ho⟩

theorem verb_mem_verbs {o : Operation} (ho : o ∈ operations document) : o.verb ∈ verbs := by
  obtain ⟨⟨path, raw⟩, -, ho⟩ := List.mem_flatMap.1 ho
  dsimp only at ho
  cases hitem : follow (.ofValue document) raw with
  | error e =>
    rw [itemOperations, hitem] at ho
    cases ho
  | ok item =>
    rw [itemOperations_eq hitem] at ho
    obtain ⟨⟨verb, entries⟩, hmethod, rfl⟩ := List.mem_map.1 ho
    obtain ⟨verb', hverb, hmethod⟩ := List.mem_filterMap.1 hmethod
    obtain ⟨entries', -, heq⟩ := Option.map_eq_some_iff.1 hmethod
    obtain ⟨rfl, rfl⟩ := Prod.mk.inj heq
    exact hverb

theorem asked_of_mem_operations {o : Operation} (ho : o ∈ operations document) :
    o.asked ⊆ asked document := fun _ hraw =>
  List.mem_append_right _ (List.mem_flatMap.2 ⟨o, ho, hraw⟩)

theorem endpoints_eq_error {e : ExtractError}
    (hpaths : document.get? "paths" >>= Value.entries? = some paths)
    (h : endpoints (.ofValue document) paths = .error e) :
    (∃ raw ∈ asked document, follow (.ofValue document) raw = .error e) ∨
      ∃ o ∈ operations document,
        (∃ raw ∈ o.parameters, ∃ p,
            follow (.ofValue document) raw = .ok p ∧ parameter? p = .error e) ∨
          ∃ r ∈ o.responses, r.1.isWritable = false := by
  rw [endpoints_eq hpaths] at h
  rcases Outcome.bind_eq_error.1 h with h | ⟨found, -, h⟩
  · obtain ⟨⟨path, raw⟩, hraw, h⟩ := Outcome.exists_of_mapM_eq_error h
    dsimp only at h
    rcases Outcome.bind_eq_error.1 h with hfail | ⟨item, hitem, -⟩
    · exact .inl ⟨raw, List.mem_append_left _ (List.mem_map_of_mem hraw), hfail⟩
    · rw [pathEndpoints_eq hitem] at h
      obtain ⟨o, ho, h⟩ := Outcome.exists_of_mapM_eq_error h
      have ho := mem_operations hraw ho
      rcases endpoint_eq_error h with ⟨raw', hraw', hfail⟩ | hother
      · exact .inl ⟨raw', asked_of_mem_operations ho hraw', hfail⟩
      · exact .inr ⟨o, ho, hother⟩
  · cases h

theorem pathEndpoints_eq_ok {path : String} {raw : Entries} {found : List Endpoint}
    (h : pathEndpoints (.ofValue document) path raw = .ok found) :
    (∃ item, follow (.ofValue document) raw = .ok item) ∧
      (∀ o ∈ itemOperations (.ofValue document) path raw, ∀ raw ∈ o.asked,
        ∃ entries, follow (.ofValue document) raw = .ok entries) ∧
      found.map (fun e => (e.path, e.method)) =
        (itemOperations (.ofValue document) path raw).map fun o => (o.path, Text.upper o.verb) := by
  obtain ⟨item, hitem, -⟩ := Outcome.bind_eq_ok.1 h
  rw [pathEndpoints_eq hitem] at h
  refine ⟨⟨item, hitem⟩, fun o ho => ?_, ?_⟩
  · obtain ⟨endpoint, -, hendpoint⟩ := Outcome.exists_ok_of_mem h ho
    exact (endpoint_eq_ok hendpoint).1
  · exact Outcome.map_of_mapM (fun o endpoint hendpoint => (endpoint_eq_ok hendpoint).2) h

theorem endpoints_eq_ok {found : List Endpoint}
    (hpaths : document.get? "paths" >>= Value.entries? = some paths)
    (h : endpoints (.ofValue document) paths = .ok found) :
    (∀ raw ∈ asked document, ∃ entries, follow (.ofValue document) raw = .ok entries) ∧
      found.map (fun e => (e.path, e.method)) =
        (operations document).map fun o => (o.path, Text.upper o.verb) := by
  rw [endpoints_eq hpaths] at h
  obtain ⟨groups, hgroups, h⟩ := Outcome.bind_eq_ok.1 h
  obtain rfl := Except.ok.inj h
  constructor
  · intro raw hraw
    rcases List.mem_append.1 hraw with hraw | hraw
    · obtain ⟨⟨path, raw⟩, hmem, rfl⟩ := List.mem_map.1 hraw
      obtain ⟨group, -, hgroup⟩ := Outcome.exists_ok_of_mem hgroups hmem
      exact (pathEndpoints_eq_ok hgroup).1
    · obtain ⟨o, ho, hraw⟩ := List.mem_flatMap.1 hraw
      obtain ⟨⟨path, raw'⟩, hmem, ho⟩ := List.mem_flatMap.1 ho
      obtain ⟨group, -, hgroup⟩ := Outcome.exists_ok_of_mem hgroups hmem
      exact (pathEndpoints_eq_ok hgroup).2.1 o ho raw hraw
  · have hmap : groups.map (List.map fun e => (e.path, e.method)) =
        (pathItems document).map fun (path, raw) =>
          (itemOperations (.ofValue document) path raw).map fun o => (o.path, Text.upper o.verb) :=
      Outcome.map_of_mapM (fun item group hgroup => (pathEndpoints_eq_ok hgroup).2.2) hgroups
    rw [List.map_flatten, hmap, operations, List.map_flatMap]
    rfl

def version? (document : Value) : Option Value :=
  (document.get? "info" >>= Value.entries?).bind (Value.lookup "version")

theorem version_eq_ok_iff {v : Option Value} :
    (∃ text, version v = .ok text) ↔ ∀ w ∈ v, w.isWritable = true := by
  unfold version
  split
  next => simp
  next => simp [Value.isWritable, Scalar.isWritable]
  next w _ => cases hw : w.isWritable <;> simp [hw]

theorem version_eq_error {v : Option Value} {e : ExtractError} (h : version v = .error e) :
    e = .longInteger := by
  unfold version at h
  split at h
  next => cases h
  next => cases h
  next =>
    split at h
    next => cases h
    next => exact (Except.error.inj h).symm

theorem info_eq (document : Value) :
    ∃ rest : String → Info,
      info document = version (version? document) >>= fun text => .ok (rest text) := by
  unfold info version?
  cases document.get? "info" >>= Value.entries? with
  | none => exact ⟨fun _ => {}, rfl⟩
  | some entries => exact ⟨_, rfl⟩

theorem info_eq_ok_iff :
    (∃ found, info document = .ok found) ↔ ∀ v ∈ version? document, v.isWritable = true := by
  obtain ⟨rest, hinfo⟩ := info_eq document
  simp only [← version_eq_ok_iff, hinfo, Outcome.bind_eq_ok]
  constructor
  · rintro ⟨found, text, htext, -⟩
    exact ⟨text, htext⟩
  · rintro ⟨text, htext⟩
    exact ⟨rest text, text, htext, rfl⟩

theorem info_eq_error {e : ExtractError} (h : info document = .error e) : e = .longInteger := by
  obtain ⟨rest, hinfo⟩ := info_eq document
  rw [hinfo] at h
  rcases Outcome.bind_eq_error.1 h with h | ⟨text, -, h⟩
  · exact version_eq_error h
  · cases h

theorem Plain.exists_of_endpoints_eq_error (hplain : Plain document) {e : ExtractError}
    (hpaths : document.get? "paths" >>= Value.entries? = some paths)
    (h : endpoints (.ofValue document) paths = .error e) :
    ∃ raw ∈ asked document, ∃ e', (Linked.ofValue document).follow raw = .error e' ∧
      e = .reference e' := by
  rcases endpoints_eq_error hpaths h with
    ⟨raw, hraw, hfail⟩ | ⟨o, ho, ⟨raw, hraw, p, hp, hfail⟩ | ⟨r, hr, hstatus⟩⟩
  · exact ⟨raw, hraw, follow_eq_error.1 hfail⟩
  · obtain ⟨v, hv, hcollection⟩ := parameter?_eq_error hfail
    have hp : (follow (.ofValue document) raw).toOption = some p := by
      rw [hp]
      rfl
    obtain ⟨hlist, hmap⟩ := hplain.places o ho raw hraw p hp v hv
    simp [hlist, hmap] at hcollection
  · simp [hplain.statuses o ho r hr] at hstatus

end

end Extract

namespace Spec

open Extract

theorem ofDocument_eq {document : Value} {paths : Entries}
    (h : document.get? "paths" >>= Value.entries? = some paths) :
    Spec.ofDocument document = do
      let endpoints ← Extract.endpoints (.ofValue document) paths
      let info ← Extract.info document
      return { info, endpoints, schemas := Extract.schemas document } := by
  rw [Spec.ofDocument, h]

theorem parts_of_ofDocument {document : Value} {spec : Spec}
    (h : Spec.ofDocument document = .ok spec) :
    ∃ paths, document.get? "paths" >>= Value.entries? = some paths ∧
      Extract.endpoints (.ofValue document) paths = .ok spec.endpoints ∧
      Extract.info document = .ok spec.info ∧ spec.schemas = Extract.schemas document := by
  cases hpaths : document.get? "paths" >>= Value.entries? with
  | none =>
    rw [Spec.ofDocument, hpaths] at h
    cases h
  | some paths =>
    rw [ofDocument_eq hpaths] at h
    obtain ⟨endpoints, hendpoints, h⟩ := Outcome.bind_eq_ok.1 h
    obtain ⟨info, hinfo, h⟩ := Outcome.bind_eq_ok.1 h
    obtain rfl := Except.ok.inj h
    exact ⟨paths, rfl, hendpoints, hinfo, rfl⟩

theorem method_mem_verbs {document : Value} {spec : Spec}
    (h : Spec.ofDocument document = .ok spec) :
    ∀ endpoint ∈ spec.endpoints, endpoint.method ∈ verbs.map Text.upper := by
  intro endpoint hendpoint
  obtain ⟨paths, hpaths, hendpoints, -⟩ := parts_of_ofDocument h
  have hmem := List.mem_map_of_mem (f := fun e : Endpoint => (e.path, e.method)) hendpoint
  rw [(endpoints_eq_ok hpaths hendpoints).2] at hmem
  obtain ⟨o, ho, heq⟩ := List.mem_map.1 hmem
  rw [← (Prod.mk.inj heq).2]
  exact List.mem_map_of_mem (verb_mem_verbs ho)

theorem map_schemas (document : Value) :
    (Extract.schemas document).map (fun (name, schema) => (name, schema.isSome)) =
      (componentSchemas document).map fun (name, raw) => (name, raw.isMap) := by
  rw [Extract.schemas, componentSchemas, List.map_filterMap, List.map_filterMap]
  refine List.filterMap_congr fun entry _ => ?_
  obtain ⟨key, raw⟩ := entry
  cases key with
  | text name => cases hmap : raw.isMap <;> simp [hmap]
  | _ => rfl

section

variable {document : Value} {paths : Entries}

theorem exists_reference_iff (hpaths : document.get? "paths" >>= Value.entries? = some paths)
    (hplain : Plain document) :
    (∃ e, Spec.ofDocument document = .error (.reference e)) ↔
      ∃ raw ∈ asked document, ∃ e, (Linked.ofValue document).follow raw = .error e := by
  rw [ofDocument_eq hpaths]
  constructor
  · rintro ⟨e, h⟩
    rcases Outcome.bind_eq_error.1 h with h | ⟨endpoints, -, h⟩
    · obtain ⟨raw, hraw, e', hfail, -⟩ := hplain.exists_of_endpoints_eq_error hpaths h
      exact ⟨raw, hraw, e', hfail⟩
    · rcases Outcome.bind_eq_error.1 h with h | ⟨info, -, h⟩
      · cases info_eq_error h
      · cases h
  · rintro ⟨raw, hraw, e, hfail⟩
    cases hendpoints : Extract.endpoints (.ofValue document) paths with
    | error e' =>
      obtain ⟨-, -, e, -, rfl⟩ := hplain.exists_of_endpoints_eq_error hpaths hendpoints
      exact ⟨e, rfl⟩
    | ok endpoints =>
      obtain ⟨entries, hentries⟩ := (endpoints_eq_ok hpaths hendpoints).1 raw hraw
      rw [follow_eq_ok.1 hentries] at hfail
      cases hfail

theorem exists_ok_iff (hpaths : document.get? "paths" >>= Value.entries? = some paths)
    (hplain : Plain document) :
    (∃ spec, Spec.ofDocument document = .ok spec) ↔
      (∀ raw ∈ asked document, ∃ entries,
          (Linked.ofValue document).follow raw = .ok entries) ∧
        ∀ v ∈ version? document, v.isWritable = true := by
  rw [← info_eq_ok_iff]
  constructor
  · rintro ⟨spec, h⟩
    obtain ⟨paths', hpaths', hendpoints, hinfo, -⟩ := parts_of_ofDocument h
    refine ⟨fun raw hraw => ?_, spec.info, hinfo⟩
    obtain ⟨entries, hentries⟩ := (endpoints_eq_ok hpaths' hendpoints).1 raw hraw
    exact ⟨entries, follow_eq_ok.1 hentries⟩
  · rintro ⟨hasked, info, hinfo⟩
    rw [ofDocument_eq hpaths]
    cases hendpoints : Extract.endpoints (.ofValue document) paths with
    | error e =>
      obtain ⟨raw, hraw, e', hfail, -⟩ := hplain.exists_of_endpoints_eq_error hpaths hendpoints
      obtain ⟨entries, hentries⟩ := hasked raw hraw
      rw [hentries] at hfail
      cases hfail
    | ok endpoints =>
      exact ⟨_, Outcome.bind_eq_ok.2 ⟨endpoints, rfl, Outcome.bind_eq_ok.2 ⟨info, hinfo, rfl⟩⟩⟩

end

/-- Extraction fails by a pointer exactly if an object that is asked for cannot be followed, and
succeeds exactly if all of them can and the version can be written out. It then has one endpoint for
each operation and one entry for each schema. -/
theorem extraction_exact {document : Value}
    (hpaths : (document.get? "paths" >>= Value.entries?).isSome = true) (hplain : Plain document) :
    ((∃ e, Spec.ofDocument document = .error (.reference e)) ↔
        ∃ raw ∈ asked document, ∃ e, (Linked.ofValue document).follow raw = .error e) ∧
      ((∃ spec, Spec.ofDocument document = .ok spec) ↔
        (∀ raw ∈ asked document, ∃ entries,
            (Linked.ofValue document).follow raw = .ok entries) ∧
          ∀ v ∈ version? document, v.isWritable = true) ∧
      ∀ spec, Spec.ofDocument document = .ok spec →
        spec.endpoints.map (fun e => (e.path, e.method)) =
            (operations document).map (fun o => (o.path, Text.upper o.verb)) ∧
          spec.schemas.map (fun (name, schema) => (name, schema.isSome)) =
            (componentSchemas document).map fun (name, raw) => (name, raw.isMap) := by
  obtain ⟨paths, hpaths⟩ := Option.isSome_iff_exists.1 hpaths
  refine ⟨exists_reference_iff hpaths hplain, exists_ok_iff hpaths hplain, fun spec h => ?_⟩
  obtain ⟨paths', hpaths', hendpoints, -, hschemas⟩ := parts_of_ofDocument h
  exact ⟨(endpoints_eq_ok hpaths' hendpoints).2, hschemas ▸ map_schemas document⟩

def pointing (pointer : String) : Value := .map [(.text "$ref", .text pointer)]

def shared : Value :=
  .map
    [(.text "paths", .map [(.text "/pets/\x7bid\x7d", pointing "#/components/pathItems/Pet")]),
     (.text "components", .map
      [(.text "pathItems", .map
        [(.text "Pet", .map
          [(.text "parameters", .list [pointing "#/components/parameters/Id"]),
           (.text "put", .map
            [(.text "requestBody", pointing "#/components/requestBodies/Pet"),
             (.text "responses", .map [(.text "200", pointing "#/components/responses/Pet")])])])]),
       (.text "parameters", .map
        [(.text "Id", pointing "#/components/parameters/Key"),
         (.text "Key", .map [(.text "name", .text "id"), (.text "in", .text "path")]),
         (.text "Lost", pointing "#/components/parameters/Nowhere")]),
       (.text "requestBodies", .map
        [(.text "Pet", .map
          [(.text "content", .map
            [(.text "application/json",
              .map [(.text "schema", pointing "#/components/schemas/Pet")])])])]),
       (.text "responses", .map [(.text "Pet", .map [(.text "description", .text "A pet")])]),
       (.text "schemas", .map
        [(.text "Pet", .map [(.text "type", .text "object")]), (.text "Note", .text "a note")])])]

theorem exists_spec_shared : ∃ spec, Spec.ofDocument shared = .ok spec :=
  Outcome.exists_of_isSome (by decide +kernel)

theorem shared_extracts :
    Plain shared ∧ ∃ spec, Spec.ofDocument shared = .ok spec ∧
      spec.endpoints.map (fun e => (e.path, e.method)) = [("/pets/\x7bid\x7d", "PUT")] ∧
      spec.schemas.map (fun (name, schema) => (name, schema.isSome)) =
        [("Pet", true), ("Note", false)] := by
  have hplain : Plain shared := ⟨by decide +kernel, by decide +kernel⟩
  obtain ⟨spec, hspec⟩ := exists_spec_shared
  obtain ⟨hendpoints, hschemas⟩ := (extraction_exact (by decide +kernel) hplain).2.2 spec hspec
  refine ⟨hplain, spec, hspec, ?_, ?_⟩
  · exact hendpoints.trans (by decide +kernel)
  · exact hschemas.trans (by decide +kernel)

end Spec

end TypedClient
