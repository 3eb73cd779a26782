import TypedClient.Proofs.Extraction

/-!
Documents in which the objects themselves stand where pointers to them stood. What is extracted from
such a document is what the one with the pointers gives.
-/

namespace TypedClient

namespace Value

def mapEntries (f : List Entry → List Entry) (v : Value) : Value :=
  match v.entries? with
  | some entries => .map (f entries)
  | none => v

def mapItems (f : Value → Value) (v : Value) : Value :=
  match v.items? with
  | some items => .list (items.map f)
  | none => v

def updateAt (keys : List String) (f : Value → Value) (entries : List Entry) : List Entry :=
  entries.map fun (k, v) => if k ∈ keys.map Scalar.text then (k, f v) else (k, v)

def updateAll (f : Value → Value) (entries : List Entry) : List Entry :=
  entries.map fun (k, v) => (k, f v)

variable {f : Value → Value} {g : List Entry → List Entry} {v : Value} {key : String}
  {keys : List String} {entries : List Entry}

@[simp] theorem entries?_mapEntries : (v.mapEntries g).entries? = v.entries?.map g := by
  unfold mapEntries
  cases h : v.entries? with
  | none => exact h
  | some entries => rfl

@[simp] theorem items?_mapItems : (v.mapItems f).items? = v.items?.map (List.map f) := by
  unfold mapItems
  cases h : v.items? with
  | none => exact h
  | some items => rfl

theorem lookup_updateAt :
    lookup key (updateAt keys f entries) =
      if key ∈ keys then (lookup key entries).map f else lookup key entries := by
  induction entries with
  | nil => simp [updateAt, lookup]
  | cons entry rest ih =>
    obtain ⟨k, v⟩ := entry
    rw [updateAt, List.map_cons, ← updateAt]
    by_cases hk : k = .text key
    · subst hk
      by_cases hkey : key ∈ keys <;> simp [lookup, hkey]
    · by_cases hkeys : k ∈ keys.map Scalar.text <;> simp [lookup, hk, hkeys, ih]

theorem lookup_updateAt_of_mem (h : key ∈ keys) :
    lookup key (updateAt keys f entries) = (lookup key entries).map f := by
  rw [lookup_updateAt, if_pos h]

theorem lookup_updateAt_of_not_mem (h : key ∉ keys) :
    lookup key (updateAt keys f entries) = lookup key entries := by
  rw [lookup_updateAt, if_neg h]

theorem get?_mapEntries_updateAt :
    (v.mapEntries (updateAt keys f)).get? key =
      if key ∈ keys then (v.get? key).map f else v.get? key := by
  rw [get?, entries?_mapEntries, get?]
  cases v.entries? with
  | none => simp
  | some entries => exact lookup_updateAt

end Value

namespace Extract

def followed (document : Linked) (raw : Entries) : Entries :=
  (document.follow raw).toOption.getD raw

def inlined (document : Linked) : Value → Value := Value.mapEntries (followed document)

def inlinedOperation (document : Linked) (operation : Entries) : Entries :=
  Value.updateAt ["parameters"] (Value.mapItems (inlined document))
    (Value.updateAt ["requestBody"] (inlined document)
      (Value.updateAt ["responses"] (Value.mapEntries (Value.updateAll (inlined document)))
        operation))

def inlinedMethods (document : Linked) (item : Entries) : Entries :=
  Value.updateAt ["parameters"] (Value.mapItems (inlined document))
    (Value.updateAt verbs (Value.mapEntries (inlinedOperation document)) item)

def inlinedItem (document : Linked) (raw : Entries) : Entries :=
  let item := followed document raw
  if methods item = [] then item else inlinedMethods document item

def inlinedDocument (document : Value) : Value :=
  document.mapEntries (Value.updateAt ["paths"] (Value.mapEntries (Value.updateAll
    (Value.mapEntries (inlinedItem (.ofValue document))))))

variable {document : Value} {other : Linked} {raw entries : Entries}

theorem follow_eq_ok_of_pointerOf (h : pointerOf entries = none) :
    follow other entries = .ok entries := by
  rw [follow, Linked.follow, h]
  rfl

theorem followed_eq (h : follow (.ofValue document) raw = .ok entries) :
    followed (.ofValue document) raw = entries ∧ pointerOf entries = none := by
  have h := follow_eq_ok.1 h
  obtain ⟨n, -, hlast⟩ := follow_eq_ok_iff.1 h
  rw [followed, h]
  exact ⟨rfl, hlast⟩

theorem follow_followed (h : follow (.ofValue document) raw = .ok entries) :
    follow other (followed (.ofValue document) raw) = .ok entries := by
  obtain ⟨rfl, hlast⟩ := followed_eq h
  exact follow_eq_ok_of_pointerOf hlast

theorem entries?_inlined (v : Value) :
    (inlined other v).entries? = v.entries?.map (followed other) :=
  Value.entries?_mapEntries

theorem objects_mapItems (v : Option Value) :
    objects (v.map (Value.mapItems (inlined other))) = (objects v).map (followed other) := by
  have hitems : items (v.map (Value.mapItems (inlined other))) =
      (items v).map (inlined other) := by
    cases v with
    | none => rfl
    | some v => cases h : v.items? <;> simp [items, h]
  rw [objects, hitems, List.filterMap_map, objects, List.map_filterMap]
  exact List.filterMap_congr fun v _ => entries?_inlined v

namespace Operation

def inlined (document : Linked) (o : Operation) : Operation :=
  { o with
    item := inlinedMethods document o.item
    entries := inlinedOperation document o.entries }

variable (o : Operation)

theorem parameters_inlined :
    (o.inlined other).parameters = o.parameters.map (followed other) := by
  have hitem : Value.lookup "parameters" (o.inlined other).item =
      (Value.lookup "parameters" o.item).map (Value.mapItems (Extract.inlined other)) := by
    rw [inlined, inlinedMethods, Value.lookup_updateAt_of_mem (by decide),
      Value.lookup_updateAt_of_not_mem (by decide)]
  have hentries : Value.lookup "parameters" (o.inlined other).entries =
      (Value.lookup "parameters" o.entries).map (Value.mapItems (Extract.inlined other)) := by
    rw [inlined, inlinedOperation, Value.lookup_updateAt_of_mem (by decide),
      Value.lookup_updateAt_of_not_mem (by decide), Value.lookup_updateAt_of_not_mem (by decide)]
  rw [parameters, hitem, hentries, objects_mapItems, objects_mapItems, ← List.map_append]
  rfl

theorem body?_inlined : (o.inlined other).body? = o.body?.map (followed other) := by
  have hentries : Value.lookup "requestBody" (o.inlined other).entries =
      (Value.lookup "requestBody" o.entries).map (Extract.inlined other) := by
    rw [inlined, inlinedOperation, Value.lookup_updateAt_of_not_mem (by decide),
      Value.lookup_updateAt_of_mem (by decide), Value.lookup_updateAt_of_not_mem (by decide)]
  rw [body?, hentries, body?]
  cases Value.lookup "requestBody" o.entries with
  | none => rfl
  | some v => exact entries?_inlined v

theorem responses_inlined :
    (o.inlined other).responses =
      o.responses.map fun r => (r.1, followed other r.2) := by
  have hentries : (Value.lookup "responses" (o.inlined other).entries).bind Value.entries? =
      ((Value.lookup "responses" o.entries).bind Value.entries?).map
        (Value.updateAll (Extract.inlined other)) := by
    rw [inlined, inlinedOperation, Value.lookup_updateAt_of_not_mem (by decide),
      Value.lookup_updateAt_of_not_mem (by decide), Value.lookup_updateAt_of_mem (by decide)]
    cases Value.lookup "responses" o.entries with
    | none => rfl
    | some v => exact Value.entries?_mapEntries
  rw [responses, hentries, responses]
  cases (Value.lookup "responses" o.entries).bind Value.entries? with
  | none => rfl
  | some entries =>
    rw [Option.map_some, Option.getD_some, Option.getD_some, Value.updateAll, List.filterMap_map,
      List.map_filterMap]
    refine List.filterMap_congr fun entry _ => ?_
    obtain ⟨status, v⟩ := entry
    simp only [Function.comp_apply, entries?_inlined]
    cases v.entries? <;> rfl

theorem asked_inlined : (o.inlined other).asked = o.asked.map (followed other) := by
  rw [asked, parameters_inlined, body?_inlined, responses_inlined, asked, List.map_append,
    List.map_append, Option.toList_map, List.map_map, List.map_map]
  rfl

theorem lookup_inlined {key : String} (h : key ∉ ["parameters", "requestBody", "responses"]) :
    Value.lookup key (o.inlined other).entries = Value.lookup key o.entries := by
  simp only [List.mem_cons, List.not_mem_nil, or_false, not_or] at h
  obtain ⟨hparameters, hbody, hresponses⟩ := h
  rw [inlined, inlinedOperation, Value.lookup_updateAt_of_not_mem (by simpa using hparameters),
    Value.lookup_updateAt_of_not_mem (by simpa using hbody),
    Value.lookup_updateAt_of_not_mem (by simpa using hresponses)]

end Operation

theorem parameters_ok {o : Operation} {found : List Entries}
    (h : o.parameters.mapM (follow (.ofValue document)) = .ok found) :
    (o.inlined (.ofValue document)).parameters.mapM (follow other) = .ok found := by
  rw [Operation.parameters_inlined]
  exact Outcome.mapM_map_eq_ok h fun raw entries => follow_followed

theorem requestBody_ok {o : Operation} {content : Option Content}
    (h : requestBody (.ofValue document) (Value.lookup "requestBody" o.entries) = .ok content) :
    requestBody other (Value.lookup "requestBody" (o.inlined (.ofValue document)).entries) =
      .ok content := by
  have hbody : (o.inlined (.ofValue document)).body? = o.body?.map _ := o.body?_inlined
  unfold Operation.body? at hbody
  unfold requestBody at h ⊢
  rw [hbody]
  cases hraw : (Value.lookup "requestBody" o.entries).bind Value.entries? with
  | none => rwa [hraw] at h
  | some raw =>
    rw [hraw] at h
    obtain ⟨entries, hentries, h⟩ := Outcome.bind_eq_ok.1 h
    exact Outcome.bind_eq_ok.2 ⟨entries, follow_followed hentries, h⟩

theorem response_ok {status : Scalar} {reply : String × Content}
    (h : response (.ofValue document) (status, raw) = .ok reply) :
    response other (status, followed (.ofValue document) raw) = .ok reply := by
  obtain ⟨entries, hentries, h⟩ := Outcome.bind_eq_ok.1 h
  exact Outcome.bind_eq_ok.2 ⟨entries, follow_followed hentries, h⟩

theorem responses_ok {o : Operation} {given : List (String × Content)}
    (h : responses (.ofValue document) (Value.lookup "responses" o.entries) = .ok given) :
    responses other (Value.lookup "responses" (o.inlined (.ofValue document)).entries) =
      .ok given := by
  rw [responses_eq] at h ⊢
  obtain ⟨replies, hreplies, h⟩ := Outcome.bind_eq_ok.1 h
  rw [Operation.responses_inlined]
  refine Outcome.bind_eq_ok.2 ⟨replies, ?_, h⟩
  exact Outcome.mapM_map_eq_ok hreplies fun r reply => response_ok

theorem endpoint_inlined {o : Operation} {endpoint : Endpoint}
    (h : Extract.endpoint (.ofValue document) o.path o.verb o.item o.entries = .ok endpoint) :
    Extract.endpoint other o.path o.verb (o.inlined (.ofValue document)).item
      (o.inlined (.ofValue document)).entries = .ok endpoint := by
  rw [endpoint_eq] at h
  obtain ⟨found, hparameters, h⟩ := Outcome.bind_eq_ok.1 h
  obtain ⟨parameters, hmerge, h⟩ := Outcome.bind_eq_ok.1 h
  obtain ⟨body, hbody, h⟩ := Outcome.bind_eq_ok.1 h
  obtain ⟨responses, hresponses, h⟩ := Outcome.bind_eq_ok.1 h
  refine (endpoint_eq other (o.inlined (.ofValue document))).trans ?_
  refine Outcome.bind_eq_ok.2 ⟨found, parameters_ok hparameters, ?_⟩
  refine Outcome.bind_eq_ok.2 ⟨parameters, hmerge, ?_⟩
  refine Outcome.bind_eq_ok.2 ⟨body, requestBody_ok hbody, ?_⟩
  refine Outcome.bind_eq_ok.2 ⟨responses, responses_ok hresponses, ?_⟩
  rw [text?, Operation.lookup_inlined o (by decide), Operation.lookup_inlined o (by decide)]
  exact h

theorem methods_inlinedMethods (item : Entries) :
    methods (inlinedMethods other item) =
      (methods item).map fun (verb, entries) => (verb, inlinedOperation other entries) := by
  rw [methods, methods, List.map_filterMap]
  refine List.filterMap_congr fun verb hverb => ?_
  have hparameters : verb ∉ ["parameters"] := fun h =>
    (by decide : ∀ key ∈ ["parameters"], key ∉ verbs) verb h hverb
  rw [inlinedMethods, Value.lookup_updateAt_of_not_mem hparameters,
    Value.lookup_updateAt_of_mem hverb]
  cases Value.lookup verb item with
  | none => rfl
  | some v =>
    rw [Option.map_some, Option.bind_some, Option.bind_some, Value.entries?_mapEntries]
    cases v.entries? <;> rfl

theorem pointerOf_inlinedMethods (item : Entries) :
    pointerOf (inlinedMethods other item) = pointerOf item := by
  rw [pointerOf, inlinedMethods, Value.lookup_updateAt_of_not_mem (by decide),
    Value.lookup_updateAt_of_not_mem (by decide), pointerOf]

theorem pointerOf_inlinedItem {item : Entries} (h : follow (.ofValue document) raw = .ok item) :
    pointerOf (inlinedItem (.ofValue document) raw) = none := by
  obtain ⟨hitem, hlast⟩ := followed_eq h
  rw [inlinedItem, hitem]
  split
  next => exact hlast
  next => rw [pointerOf_inlinedMethods, hlast]

theorem itemOperations_inlinedItem {path : String} {item : Entries}
    (h : follow (.ofValue document) raw = .ok item) :
    itemOperations other path (inlinedItem (.ofValue document) raw) =
      (itemOperations (.ofValue document) path raw).map (.inlined (.ofValue document)) := by
  rw [itemOperations_eq (follow_eq_ok_of_pointerOf (pointerOf_inlinedItem h)), itemOperations_eq h,
    inlinedItem, (followed_eq h).1]
  split
  next hnone =>
    rw [hnone]
    rfl
  next =>
    rw [methods_inlinedMethods, List.map_map, List.map_map]
    rfl

theorem pathEndpoints_inlined {path : String} {found : List Endpoint}
    (h : pathEndpoints (.ofValue document) path raw = .ok found) :
    pathEndpoints other path (inlinedItem (.ofValue document) raw) = .ok found := by
  obtain ⟨item, hitem, -⟩ := Outcome.bind_eq_ok.1 h
  rw [pathEndpoints_eq hitem] at h
  rw [pathEndpoints_eq (follow_eq_ok_of_pointerOf (pointerOf_inlinedItem hitem)),
    itemOperations_inlinedItem hitem]
  exact Outcome.mapM_map_eq_ok h fun o endpoint => endpoint_inlined

theorem get?_inlinedDocument {key : String} (h : key ∉ ["paths"]) :
    (inlinedDocument document).get? key = document.get? key := by
  rw [inlinedDocument, Value.get?_mapEntries_updateAt, if_neg h]

theorem paths_inlinedDocument (document : Value) :
    (inlinedDocument document).get? "paths" >>= Value.entries? =
      (document.get? "paths" >>= Value.entries?).map
        (Value.updateAll (Value.mapEntries (inlinedItem (.ofValue document)))) := by
  rw [inlinedDocument, Value.get?_mapEntries_updateAt, if_pos (by decide)]
  cases document.get? "paths" with
  | none => rfl
  | some v => exact Value.entries?_mapEntries

theorem pathItems_inlinedDocument :
    pathItems (inlinedDocument document) =
      (pathItems document).map fun r => (r.1, inlinedItem (.ofValue document) r.2) := by
  rw [pathItems, paths_inlinedDocument, pathItems]
  cases document.get? "paths" >>= Value.entries? with
  | none => rfl
  | some paths =>
    rw [Option.map_some, Option.getD_some, Option.getD_some, Value.updateAll, List.filterMap_map,
      List.map_filterMap]
    refine List.filterMap_congr fun entry _ => ?_
    obtain ⟨key, v⟩ := entry
    cases key with
    | text path =>
      simp only [Function.comp_apply, Value.entries?_mapEntries]
      cases v.entries? <;> rfl
    | _ => rfl

theorem operations_inlinedDocument
    (h : ∀ raw ∈ (pathItems document).map (·.2),
      ∃ item, follow (.ofValue document) raw = .ok item) :
    operations (inlinedDocument document) =
      (operations document).map (Operation.inlined (.ofValue document)) := by
  rw [operations, pathItems_inlinedDocument, List.flatMap_map, operations, List.map_flatMap]
  refine List.flatMap_congr fun r hr => ?_
  obtain ⟨item, hitem⟩ := h r.2 (List.mem_map_of_mem hr)
  exact itemOperations_inlinedItem hitem

theorem pointerOf_of_mem_asked
    (h : ∀ raw ∈ asked document, ∃ entries, follow (.ofValue document) raw = .ok entries) :
    ∀ raw ∈ asked (inlinedDocument document), pointerOf raw = none := by
  have hitems : ∀ raw ∈ (pathItems document).map (·.2),
      ∃ item, follow (.ofValue document) raw = .ok item :=
    fun raw hraw => h raw (List.mem_append_left _ hraw)
  rw [asked, pathItems_inlinedDocument, operations_inlinedDocument hitems, List.map_map,
    List.flatMap_map]
  intro raw hraw
  rcases List.mem_append.1 hraw with hraw | hraw
  · obtain ⟨r, hr, rfl⟩ := List.mem_map.1 hraw
    obtain ⟨item, hitem⟩ := hitems r.2 (List.mem_map_of_mem hr)
    exact pointerOf_inlinedItem hitem
  · obtain ⟨o, ho, hraw⟩ := List.mem_flatMap.1 hraw
    rw [Operation.asked_inlined] at hraw
    obtain ⟨old, hold, rfl⟩ := List.mem_map.1 hraw
    obtain ⟨entries, hentries⟩ := h old (asked_of_mem_operations ho hold)
    obtain ⟨rfl, hlast⟩ := followed_eq hentries
    exact hlast

theorem endpoints_inlinedDocument {paths : Entries} {found : List Endpoint}
    (hpaths : document.get? "paths" >>= Value.entries? = some paths)
    (h : endpoints (.ofValue document) paths = .ok found) :
    endpoints (.ofValue (inlinedDocument document))
      (Value.updateAll (Value.mapEntries (inlinedItem (.ofValue document))) paths) = .ok found := by
  have hpaths' := paths_inlinedDocument document
  rw [hpaths, Option.map_some] at hpaths'
  rw [endpoints_eq hpaths] at h
  rw [endpoints_eq hpaths', pathItems_inlinedDocument]
  obtain ⟨groups, hgroups, h⟩ := Outcome.bind_eq_ok.1 h
  refine Outcome.bind_eq_ok.2 ⟨groups, ?_, h⟩
  exact Outcome.mapM_map_eq_ok hgroups fun item group => pathEndpoints_inlined

theorem info_inlinedDocument : info (inlinedDocument document) = info document := by
  rw [info, get?_inlinedDocument (by decide), info]

theorem schemas_inlinedDocument : schemas (inlinedDocument document) = schemas document := by
  rw [schemas, get?_inlinedDocument (by decide), schemas]

end Extract

namespace Spec

open Extract

/-- Pointers are transparent: a document gives the same with the objects in their places. -/
theorem ofDocument_inlinedDocument {document : Value} {spec : Spec}
    (h : Spec.ofDocument document = .ok spec) :
    Spec.ofDocument (inlinedDocument document) = .ok spec := by
  obtain ⟨paths, hpaths, hendpoints, hinfo, hschemas⟩ := parts_of_ofDocument h
  have hpaths' := paths_inlinedDocument document
  rw [hpaths, Option.map_some] at hpaths'
  rw [ofDocument_eq hpaths', info_inlinedDocument, schemas_inlinedDocument, ← hschemas]
  refine Outcome.bind_eq_ok.2 ⟨spec.endpoints, endpoints_inlinedDocument hpaths hendpoints, ?_⟩
  exact Outcome.bind_eq_ok.2 ⟨spec.info, hinfo, rfl⟩

theorem shared_inlined :
    ∃ spec, Spec.ofDocument shared = .ok spec ∧
      Spec.ofDocument (inlinedDocument shared) = .ok spec := by
  obtain ⟨spec, hspec⟩ := exists_spec_shared
  exact ⟨spec, hspec, ofDocument_inlinedDocument hspec⟩

end Spec

end TypedClient
