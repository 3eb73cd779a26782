import Mathlib.Data.List.Induction
import Mathlib.Data.List.Infix
import Mathlib.Data.List.ReduceOption
import TypedClient.Proofs.Extraction

namespace TypedClient

def Parameter.key (p : Parameter) : String × Location := (p.name, p.location)

def Location.word : Location → String
  | .path => "path"
  | .query => "query"

namespace Extract

open Parameter (key)

structure Declares (raw : Entries) (name : String) (place : Location) : Prop where
  called : text? "name" raw = some name
  isNamed : name ≠ ""
  placed : text? "in" raw = some place.word

def place? (word : String) : Option Location :=
  if word = "path" then some .path else if word = "query" then some .query else none

def key? (raw : Entries) : Option (String × Location) := do
  let name ← (text? "name" raw).filter (· ≠ "")
  let place ← (text? "in" raw).bind place?
  return (name, place)

def describe (raw : Entries) (k : String × Location) : Parameter where
  name := k.1
  location := k.2
  schema := schemaAt "schema" raw
  required := k.2 = .path || ((Value.lookup "required" raw).map Value.isTruthy).getD false

def declared? (raw : Entries) : Option Parameter := (key? raw).map (describe raw)

theorem place?_eq_some_iff {word : String} {place : Location} :
    place? word = some place ↔ word = place.word := by
  unfold place?
  split
  next h => cases place <;> simp [Location.word, h]
  next hpath =>
    split
    next h => cases place <;> simp [Location.word, h]
    next hquery => cases place <;> simp [Location.word, hpath, hquery]

theorem key?_eq_some_iff {raw : Entries} {k : String × Location} :
    key? raw = some k ↔ Declares raw k.1 k.2 := by
  obtain ⟨name, place⟩ := k
  simp only [key?, Option.bind_eq_bind, Option.bind_eq_some_iff, Option.filter_eq_some_iff,
    place?_eq_some_iff, decide_eq_true_eq]
  constructor
  · rintro ⟨name', ⟨hname, hne⟩, place', ⟨word, hword, rfl⟩, h⟩
    obtain ⟨rfl, rfl⟩ := Prod.mk.inj (Option.some.inj h)
    exact ⟨hname, hne, hword⟩
  · rintro ⟨hname, hne, hplace⟩
    exact ⟨name, ⟨hname, hne⟩, place, ⟨_, hplace, rfl⟩, rfl⟩

theorem key_of_declared? {raw : Entries} {p : Parameter} (h : declared? raw = some p) :
    key? raw = some p.key := by
  obtain ⟨k, hk, rfl⟩ := Option.map_eq_some_iff.1 h
  exact hk

def HasScalarPlace (raw : Entries) : Prop :=
  ∀ v ∈ Value.lookup "in" raw, v.isList = false ∧ v.isMap = false

theorem text?_eq_some_iff {v : Value} {s : String} :
    v.text? = some s ↔ v = .scalar (.text s) := by
  constructor
  · intro h
    unfold Value.text? at h
    split at h
    next => rw [Option.some.inj h]
    next => cases h
  · rintro rfl
    rfl

theorem location_eq {v : Option Value} (h : ∀ w ∈ v, w.isList = false ∧ w.isMap = false) :
    location v = .ok ((v.bind Value.text?).bind place?) := by
  unfold location
  split
  next => rfl
  next => rfl
  next w hpath hquery =>
    obtain ⟨hlist, hmap⟩ := h w rfl
    have hother : w.text?.bind place? = none := by
      cases hplace : w.text?.bind place? with
      | none => rfl
      | some place =>
        obtain ⟨word, hword, hplace⟩ := Option.bind_eq_some_iff.1 hplace
        rw [place?_eq_some_iff.1 hplace, text?_eq_some_iff] at hword
        cases place with
        | path => exact (hpath hword).elim
        | query => exact (hquery hword).elim
    simp [hlist, hmap, hother]
  next => rfl

theorem parameter?_eq {raw : Entries} (h : HasScalarPlace raw) :
    parameter? raw = .ok (declared? raw) := by
  unfold parameter? declared? key?
  split
  next hname =>
    rw [hname]
    rfl
  next name hname =>
    rw [location_eq h, hname]
    cases hplace : (text? "in" raw).bind place?
    all_goals
      rw [text?] at hplace
      rw [hplace]
      rfl

variable {merged : List Parameter} {p q : Parameter}

theorem override_cons_self {rest : List Parameter} (h : q.key = p.key) :
    override p (q :: rest) = p :: rest := by
  rw [override, if_pos (Prod.mk.inj h)]

theorem override_cons_of_ne {rest : List Parameter} (h : q.key ≠ p.key) :
    override p (q :: rest) = q :: override p rest := by
  rw [override, if_neg]
  rintro ⟨hname, hlocation⟩
  exact h (Prod.ext hname hlocation)

theorem map_key_override (p : Parameter) (merged : List Parameter) :
    (override p merged).map key =
      if p.key ∈ merged.map key then merged.map key else merged.map key ++ [p.key] := by
  induction merged with
  | nil => simp [override]
  | cons q rest ih =>
    by_cases h : q.key = p.key
    · simp [override_cons_self h, h]
    · rw [override_cons_of_ne h, List.map_cons, ih]
      by_cases hrest : p.key ∈ rest.map key
      · simp [hrest]
      · simp [hrest, Ne.symm h]

theorem nodup_override (h : (merged.map key).Nodup) (p : Parameter) :
    ((override p merged).map key).Nodup := by
  rw [map_key_override]
  split
  next => exact h
  next hnew => exact List.nodup_append.2 ⟨h, by simp, by simpa using hnew⟩

theorem mem_override (h : (merged.map key).Nodup) :
    q ∈ override p merged ↔ q = p ∨ q ∈ merged ∧ q.key ≠ p.key := by
  induction merged with
  | nil => simp [override]
  | cons first rest ih =>
    rw [List.map_cons, List.nodup_cons] at h
    by_cases hfirst : first.key = p.key
    · have hrest : q ∈ rest → q.key ≠ p.key := by
        intro hq heq
        apply h.1
        rw [hfirst, ← heq]
        exact List.mem_map_of_mem hq
      have hne : q = first → ¬q.key ≠ p.key := fun heq hne => hne (heq ▸ hfirst)
      rw [override_cons_self hfirst, List.mem_cons, List.mem_cons]
      grind
    · have hne : q = first → q.key ≠ p.key := fun heq => heq ▸ hfirst
      rw [override_cons_of_ne hfirst, List.mem_cons, ih h.2, List.mem_cons]
      grind

def overrideAll (merged given : List Parameter) : List Parameter :=
  given.foldl (fun merged p => override p merged) merged

theorem overrideAll_append (merged given more : List Parameter) :
    overrideAll merged (given ++ more) = overrideAll (overrideAll merged given) more :=
  List.foldl_append

theorem overrideAll_concat (merged given : List Parameter) (p : Parameter) :
    overrideAll merged (given ++ [p]) = override p (overrideAll merged given) :=
  overrideAll_append merged given [p]

theorem nodup_overrideAll (h : (merged.map key).Nodup) (given : List Parameter) :
    ((overrideAll merged given).map key).Nodup := by
  induction given generalizing merged with
  | nil => exact h
  | cons p rest ih => exact ih (nodup_override h p)

theorem nodup_overrideAll_nil (given : List Parameter) :
    ((overrideAll [] given).map key).Nodup := by
  apply nodup_overrideAll
  exact List.nodup_nil

theorem prefix_overrideAll (merged given : List Parameter) :
    merged.map key <+: (overrideAll merged given).map key := by
  induction given generalizing merged with
  | nil => exact List.prefix_refl _
  | cons p rest ih =>
    refine List.IsPrefix.trans ?_ (ih (override p merged))
    rw [map_key_override]
    split
    next => exact List.prefix_refl _
    next => exact List.prefix_append _ _

theorem eraseDups_concat {α : Type} [BEq α] [LawfulBEq α] (xs : List α) (x : α)
    [Decidable (x ∈ xs)] :
    (xs ++ [x]).eraseDups = if x ∈ xs then xs.eraseDups else xs.eraseDups ++ [x] := by
  rw [List.eraseDups_append, List.removeAll]
  split
  next h => simp [h]
  next h => simp [h, List.eraseDups_cons]

theorem map_key_overrideAll (given : List Parameter) :
    (overrideAll [] given).map key = (given.map key).eraseDups := by
  induction given using List.reverseRecOn with
  | nil => rfl
  | append_singleton given p ih =>
    rw [overrideAll_concat, map_key_override, ih, List.map_append, List.map_singleton,
      eraseDups_concat]
    simp only [List.mem_eraseDups]

theorem mem_map_key_override {k : String × Location} :
    k ∈ (override p merged).map key ↔ k ∈ merged.map key ∨ k = p.key := by
  rw [map_key_override]
  split
  next hp => exact ⟨.inl, fun h => h.elim id fun hk => hk ▸ hp⟩
  next => rw [List.mem_append, List.mem_singleton]

theorem mem_overrideAll (h : (merged.map key).Nodup) (given : List Parameter) :
    q ∈ overrideAll merged given ↔
      q ∈ overrideAll [] given ∨ q ∈ merged ∧ q.key ∉ (overrideAll [] given).map key := by
  induction given using List.reverseRecOn with
  | nil => simp [overrideAll]
  | append_singleton given p ih =>
    rw [overrideAll_concat, overrideAll_concat, mem_override (nodup_overrideAll h given), ih,
      mem_override (nodup_overrideAll_nil given), mem_map_key_override]
    grind

def IsLast (raws : List Entries) (raw : Entries) (k : String × Location) : Prop :=
  ∃ before after, raws = before ++ raw :: after ∧ Declares raw k.1 k.2 ∧
    ∀ later ∈ after, ¬Declares later k.1 k.2

theorem map_key_declared (raws : List Entries) :
    (raws.filterMap declared?).map key = raws.filterMap key? := by
  rw [List.map_filterMap]
  refine List.filterMap_congr fun raw _ => ?_
  cases h : declared? raw with
  | none => exact (Option.map_eq_none_iff.1 h).symm
  | some p => exact (key_of_declared? h).symm

theorem isLast_concat {raws : List Entries} {raw raw' : Entries} {k : String × Location} :
    IsLast (raws ++ [raw']) raw k ↔
      raw = raw' ∧ Declares raw k.1 k.2 ∨ IsLast raws raw k ∧ ¬Declares raw' k.1 k.2 := by
  constructor
  · rintro ⟨before, after, heq, hraw, hlater⟩
    rcases List.eq_nil_or_concat' after with rfl | ⟨after, last, rfl⟩
    · obtain ⟨-, hlast⟩ := List.append_inj' heq rfl
      exact .inl ⟨(List.singleton_inj.1 hlast).symm, hraw⟩
    · rw [← List.cons_append, ← List.append_assoc] at heq
      obtain ⟨hraws, hlast⟩ := List.append_inj' heq rfl
      rw [List.singleton_inj.1 hlast]
      refine .inr ⟨⟨before, after, hraws, hraw, fun later h => ?_⟩, ?_⟩
      · exact hlater later (List.mem_append_left _ h)
      · exact hlater last (by simp)
  · rintro (⟨rfl, h⟩ | ⟨⟨before, after, rfl, hraw, hlater⟩, hraw'⟩)
    · exact ⟨raws, [], rfl, h, by simp⟩
    · refine ⟨before, after ++ [raw'], by simp, hraw, ?_⟩
      simp only [List.mem_append, List.mem_singleton]
      rintro later (h | rfl)
      · exact hlater later h
      · exact hraw'

theorem mem_overrideAll_declared (raws : List Entries) :
    q ∈ overrideAll [] (raws.filterMap declared?) ↔
      ∃ raw, IsLast raws raw q.key ∧ q = describe raw q.key := by
  induction raws using List.reverseRecOn with
  | nil => simp [overrideAll, IsLast]
  | append_singleton raws last ih =>
    simp only [isLast_concat, ← key?_eq_some_iff]
    cases hlast : key? last with
    | none =>
      have hdeclared : declared? last = none := by rw [declared?, hlast, Option.map_none]
      have hnone : ∀ raw, raw = last → key? raw ≠ some q.key := by
        rintro raw rfl h
        cases hlast.symm.trans h
      rw [List.filterMap_append, List.filterMap_cons_none hdeclared, List.filterMap_nil,
        List.append_nil, ih]
      constructor
      · rintro ⟨raw, hraw, hq⟩
        exact ⟨raw, .inr ⟨hraw, by simp⟩, hq⟩
      · rintro ⟨raw, ⟨heq, hkey⟩ | ⟨hraw, -⟩, hq⟩
        · exact (hnone raw heq hkey).elim
        · exact ⟨raw, hraw, hq⟩
    | some k =>
      have hdeclared : declared? last = some (describe last k) := by
        rw [declared?, hlast, Option.map_some]
      rw [List.filterMap_append, List.filterMap_cons_some hdeclared, List.filterMap_nil,
        overrideAll_concat, mem_override (nodup_overrideAll_nil _), ih]
      have hkey : (describe last k).key = k := rfl
      rw [hkey]
      constructor
      · rintro (rfl | ⟨⟨raw, hraw, hq⟩, hne⟩)
        · exact ⟨last, .inl ⟨rfl, hlast⟩, rfl⟩
        · exact ⟨raw, .inr ⟨hraw, fun h => hne (Option.some.inj h).symm⟩, hq⟩
      · rintro ⟨raw, ⟨rfl, hraw⟩ | ⟨hraw, hne⟩, hq⟩
        · cases hlast.symm.trans hraw
          exact .inl hq
        · exact .inr ⟨⟨raw, hraw, hq⟩, fun h => hne (h ▸ rfl)⟩

theorem mapM_parameter?_eq {raws : List Entries} (h : ∀ raw ∈ raws, HasScalarPlace raw) :
    raws.mapM parameter? = .ok (raws.map declared?) := by
  induction raws with
  | nil => rfl
  | cons raw rest ih =>
    rw [List.forall_mem_cons] at h
    rw [List.mapM_cons, parameter?_eq h.1, ih h.2]
    rfl

theorem mergeParameters_eq {raws : List Entries} (h : ∀ raw ∈ raws, HasScalarPlace raw) :
    mergeParameters raws = .ok (overrideAll [] (raws.filterMap declared?)) := by
  have hdeclared : (raws.map declared?).reduceOption = raws.filterMap declared? := by
    rw [List.reduceOption, List.filterMap_map]
    rfl
  rw [mergeParameters, mapM_parameter?_eq h, ← hdeclared]
  rfl

theorem mergeParameters_of_endpoint {document : Linked} {path verb : String}
    {item operation : Entries} {shared own : List Entries} {endpoint : Endpoint}
    (hshared : collect document (Value.lookup "parameters" item) = .ok shared)
    (hown : collect document (Value.lookup "parameters" operation) = .ok own)
    (h : Extract.endpoint document path verb item operation = .ok endpoint) :
    mergeParameters (shared ++ own) = .ok endpoint.parameters := by
  obtain ⟨shared', hshared', h⟩ := Outcome.bind_eq_ok.1 h
  cases hshared.symm.trans hshared'
  obtain ⟨own', hown', h⟩ := Outcome.bind_eq_ok.1 h
  cases hown.symm.trans hown'
  obtain ⟨parameters, hparameters, h⟩ := Outcome.bind_eq_ok.1 h
  obtain ⟨body, -, h⟩ := Outcome.bind_eq_ok.1 h
  obtain ⟨responses, -, h⟩ := Outcome.bind_eq_ok.1 h
  obtain rfl := Except.ok.inj h
  exact hparameters

/-- The parameters that are shared by a path, overridden by an operation's own. -/
structure Merged (shared own : List Entries) (merged : List Parameter) : Prop where
  nodup : (merged.map key).Nodup
  mem_iff : ∀ name place, (name, place) ∈ merged.map key ↔
    ∃ raw ∈ shared ++ own, Declares raw name place
  order : merged.map key = ((shared ++ own).filterMap key?).eraseDups
  last : ∀ p ∈ merged, ∃ raw, IsLast (shared ++ own) raw p.key ∧ p = describe raw p.key
  overridden : ∃ base later, mergeParameters shared = .ok base ∧ mergeParameters own = .ok later ∧
    base.map key <+: merged.map key ∧
      ∀ p, p ∈ merged ↔ p ∈ later ∨ p ∈ base ∧ p.key ∉ later.map key
  required : ∀ p ∈ merged, p.location = .path → p.required = true

theorem merged_overrideAll {shared own : List Entries}
    (h : ∀ raw ∈ shared ++ own, HasScalarPlace raw) :
    Merged shared own (overrideAll [] ((shared ++ own).filterMap declared?)) where
  nodup := nodup_overrideAll_nil _
  mem_iff := fun name place => by
    rw [map_key_overrideAll, List.mem_eraseDups, map_key_declared]
    simp only [List.mem_filterMap, key?_eq_some_iff]
  order := by rw [map_key_overrideAll, map_key_declared]
  last := fun p hp => (mem_overrideAll_declared _).1 hp
  overridden := by
    refine ⟨_, _, mergeParameters_eq fun raw hraw => h raw (List.mem_append_left _ hraw),
      mergeParameters_eq fun raw hraw => h raw (List.mem_append_right _ hraw), ?_⟩
    rw [List.filterMap_append, overrideAll_append]
    exact ⟨prefix_overrideAll _ _, fun p => mem_overrideAll (nodup_overrideAll_nil _) _⟩
  required := fun p hp hpath => by
    obtain ⟨raw, -, hdescribe⟩ := (mem_overrideAll_declared _).1 hp
    rw [hdescribe]
    simp [describe, Parameter.key, hpath]

/-- Whatever else stands in the two lists, an endpoint has one parameter for each name and place
that they declare, where it is given first and as it is given last. -/
theorem parameters_merged {shared own : List Entries}
    (h : ∀ raw ∈ shared ++ own, HasScalarPlace raw) :
    ∃ merged, mergeParameters (shared ++ own) = .ok merged ∧ Merged shared own merged ∧
      ∀ document path verb item operation endpoint,
        collect document (Value.lookup "parameters" item) = .ok shared →
          collect document (Value.lookup "parameters" operation) = .ok own →
            Extract.endpoint document path verb item operation = .ok endpoint →
              endpoint.parameters = merged := by
  refine ⟨_, mergeParameters_eq h, merged_overrideAll h, ?_⟩
  intro document path verb item operation endpoint hshared hown hendpoint
  have hmerge := mergeParameters_of_endpoint hshared hown hendpoint
  exact Except.ok.inj (hmerge.symm.trans (mergeParameters_eq h))

def parameterObject (name place : String) (more : Entries) : Entries :=
  [(.text "name", .text name), (.text "in", .text place)] ++ more

def sharedParameters : List Entries :=
  [parameterObject "id" "path" [], parameterObject "trace" "header" [],
   parameterObject "page" "query" []]

def ownParameters : List Entries :=
  [parameterObject "id" "query" [], parameterObject "" "query" [],
   parameterObject "page" "query" [(.text "required", .scalar (.bool true))]]

theorem ownParameters_override :
    (∀ raw ∈ sharedParameters ++ ownParameters, HasScalarPlace raw) ∧
      ∃ merged, mergeParameters (sharedParameters ++ ownParameters) = .ok merged ∧
        merged.map key = [("id", .path), ("page", .query), ("id", .query)] := by
  have hplaces : ∀ raw ∈ sharedParameters ++ ownParameters, HasScalarPlace raw := by
    unfold HasScalarPlace
    decide
  obtain ⟨merged, hmerge, hmerged, -⟩ := parameters_merged hplaces
  refine ⟨hplaces, merged, hmerge, ?_⟩
  rw [hmerged.order]
  decide

end Extract

end TypedClient
