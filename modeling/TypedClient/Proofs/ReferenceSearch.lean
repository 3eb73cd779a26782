import Mathlib.Algebra.GroupWithZero.Nat
import Mathlib.Data.Finset.Option
import TypedClient.Proofs.Rounds
import TypedClient.Warnings

/-!
The search for the names that a document refers to works on a stack of schemas: the one on top makes
way for its parts. It ends after as many rounds as the document has schemas at any depth, and has
then found the name of every reference among them.
-/

namespace TypedClient

namespace Schema

/-- A reference to the name stands in the schema, at any depth under items and properties. -/
inductive RefersTo (name : String) : Schema → Prop
  | reference : RefersTo name (.reference name)
  | item {item : Schema} : RefersTo name item → RefersTo name (.array item)
  | property {properties : List (String × Schema)} {required : List String}
      {p : String × Schema} :
      p ∈ properties → RefersTo name p.2 → RefersTo name (.object properties required)

theorem propertyReferences_eq (properties : List (String × Schema)) :
    propertyReferences properties = (properties.map (·.2)).flatMap references := by
  induction properties with
  | nil => rfl
  | cons p rest ih => rw [propertyReferences, ih, List.map_cons, List.flatMap_cons]

mutual

theorem refersTo_of_mem {name : String} : (s : Schema) → name ∈ s.references → s.RefersTo name
  | .primitive .. => fun h => nomatch h
  | .reference _ => fun h => List.mem_singleton.1 h ▸ .reference
  | .array item => fun h => .item (refersTo_of_mem item h)
  | .object properties required => by
    intro h
    obtain ⟨p, hp, hrefers⟩ := exists_refersTo_of_mem properties h
    exact .property hp hrefers
  | .untyped => fun h => nomatch h

theorem exists_refersTo_of_mem {name : String} : (properties : List (String × Schema)) →
    name ∈ propertyReferences properties → ∃ p ∈ properties, p.2.RefersTo name
  | [] => fun h => nomatch h
  | (key, s) :: rest => by
    intro h
    rcases List.mem_append.1 h with h | h
    · exact ⟨(key, s), List.mem_cons_self, refersTo_of_mem s h⟩
    · obtain ⟨p, hp, hrefers⟩ := exists_refersTo_of_mem rest h
      exact ⟨p, List.mem_cons_of_mem _ hp, hrefers⟩

end

theorem mem_references_iff {name : String} {s : Schema} :
    name ∈ s.references ↔ s.RefersTo name := by
  refine ⟨refersTo_of_mem s, fun h => ?_⟩
  induction h with
  | reference => exact List.mem_singleton_self name
  | item _ ih => exact ih
  | property hp _ ih =>
    rw [references, propertyReferences_eq]
    exact List.mem_flatMap.2 ⟨_, List.mem_map_of_mem hp, ih⟩

mutual

def size : Schema → Nat
  | .primitive .. => 1
  | .reference _ => 1
  | .array item => item.size + 1
  | .object properties _ => propertySize properties + 1
  | .untyped => 1

def propertySize : List (String × Schema) → Nat
  | [] => 0
  | (_, schema) :: rest => schema.size + propertySize rest

end

theorem propertySize_eq (properties : List (String × Schema)) :
    propertySize properties = ((properties.map (·.2)).map size).sum := by
  induction properties with
  | nil => rfl
  | cons p rest ih => rw [propertySize, ih, List.map_cons, List.map_cons, List.sum_cons]

def parts : Schema → List Schema
  | .array item => [item]
  | .object properties _ => properties.map (·.2)
  | _ => []

def target? : Schema → Option String
  | .reference name => some name
  | _ => none

theorem size_eq (s : Schema) : s.size = (s.parts.map size).sum + 1 := by
  cases s with
  | object properties required => rw [size, propertySize_eq, parts]
  | array item => simp [size, parts]
  | _ => rfl

theorem references_eq (s : Schema) :
    s.references = s.target?.toList ++ s.parts.flatMap references := by
  cases s with
  | object properties required => exact propertyReferences_eq properties
  | array item => simp [references, target?, parts]
  | _ => rfl

end Schema

structure Search where
  found : Finset String
  pending : List Schema

namespace Search

def step : Search → Option Search
  | ⟨_, []⟩ => none
  | ⟨found, .reference name :: rest⟩ => some ⟨insert name found, rest⟩
  | ⟨found, .array item :: rest⟩ => some ⟨found, item :: rest⟩
  | ⟨found, .object properties _ :: rest⟩ => some ⟨found, (properties.map (·.2)).reverse ++ rest⟩
  | ⟨found, _ :: rest⟩ => some ⟨found, rest⟩

def size (s : Search) : Nat := (s.pending.map Schema.size).sum

def names (s : Search) : Finset String :=
  s.found ∪ (s.pending.flatMap Schema.references).toFinset

theorem step_cons (found : Finset String) (schema : Schema) (rest : List Schema) :
    step ⟨found, schema :: rest⟩ =
      some ⟨found ∪ schema.target?.toFinset, schema.parts.reverse ++ rest⟩ := by
  cases schema with
  | reference name => simp [step, Schema.target?, Schema.parts, Finset.union_comm found]
  | _ => simp [step, Schema.target?, Schema.parts]

theorem pending_eq_nil {s : Search} (h : s.step = none) : s.pending = [] := by
  obtain ⟨found, pending⟩ := s
  cases pending with
  | nil => rfl
  | cons schema rest => cases (step_cons found schema rest).symm.trans h

theorem size_names_of_step {s t : Search} (h : s.step = some t) :
    t.size + 1 = s.size ∧ t.names = s.names := by
  obtain ⟨found, pending⟩ := s
  cases pending with
  | nil => cases h
  | cons schema rest =>
    cases (step_cons found schema rest).symm.trans h
    constructor
    · simp only [size, List.map_append, List.map_reverse, List.sum_append, List.sum_reverse,
        List.map_cons, List.sum_cons, schema.size_eq]
      omega
    · ext name
      simp [names, schema.references_eq]

theorem rounds (s : Search) : Rounds step s s.size ⟨s.names, []⟩ := by
  -- the size counts the rounds, and the names are what they keep
  have hsize : ∀ s t : Search, s.step = some t → t.size + 1 = s.size :=
    fun s t h => (size_names_of_step h).1
  have hnames : ∀ s t : Search, s.step = some t → t.names = s.names :=
    fun s t h => (size_names_of_step h).2
  obtain ⟨n, last, h⟩ := Rounds.exists_of_size_lt (fun s t h => (hsize s t h).le) s
  obtain ⟨found, pending⟩ := last
  obtain rfl : pending = [] := pending_eq_nil h.step_last
  obtain rfl : found = s.names := by simpa [names] using h.keeps hnames
  obtain rfl : n = s.size := h.add_size hsize
  exact h

end Search

theorem Endpoint.mem_schemas {endpoint : Endpoint} {s : Schema} :
    s ∈ endpoint.schemas ↔
      (∃ p ∈ endpoint.parameters, p.schema = s) ∨
        (∃ content mediaType, endpoint.requestBody = some content ∧ (mediaType, s) ∈ content) ∨
          ∃ status content mediaType, (status, content) ∈ endpoint.responses ∧
            (mediaType, s) ∈ content := by
  cases hbody : endpoint.requestBody with
  | none => simp [schemas, hbody]
  | some content => simp [schemas, hbody]

namespace Spec

/-- A schema is a component of a document or stands under a parameter, body or response of one of
its endpoints. -/
inductive Contains (spec : Spec) : Schema → Prop
  | component {name : String} {s : Schema} : (name, some s) ∈ spec.schemas → Contains spec s
  | parameter {endpoint : Endpoint} {p : Parameter} :
      endpoint ∈ spec.endpoints → p ∈ endpoint.parameters → Contains spec p.schema
  | requestBody {endpoint : Endpoint} {content : Content} {mediaType : String} {s : Schema} :
      endpoint ∈ spec.endpoints → endpoint.requestBody = some content →
        (mediaType, s) ∈ content → Contains spec s
  | response {endpoint : Endpoint} {status mediaType : String} {content : Content} {s : Schema} :
      endpoint ∈ spec.endpoints → (status, content) ∈ endpoint.responses →
        (mediaType, s) ∈ content → Contains spec s

def contained (spec : Spec) : List Schema :=
  spec.definedSchemas.map (·.2) ++ spec.endpoints.flatMap Endpoint.schemas

variable {spec : Spec} {s : Schema}

theorem mem_definedSchemas {name : String} :
    (name, s) ∈ spec.definedSchemas ↔ (name, some s) ∈ spec.schemas := by
  simp [definedSchemas]

theorem mem_contained : s ∈ spec.contained ↔ spec.Contains s := by
  rw [contained, List.mem_append, List.mem_flatMap]
  constructor
  · rintro (h | ⟨endpoint, hendpoint, h⟩)
    · obtain ⟨⟨name, s⟩, hentry, rfl⟩ := List.mem_map.1 h
      exact .component (mem_definedSchemas.1 hentry)
    · rcases Endpoint.mem_schemas.1 h with
        ⟨p, hp, rfl⟩ | ⟨content, mediaType, hbody, hs⟩ | ⟨status, content, mediaType, hresponse, hs⟩
      · exact .parameter hendpoint hp
      · exact .requestBody hendpoint hbody hs
      · exact .response hendpoint hresponse hs
  · intro h
    cases h with
    | component hentry => exact .inl (List.mem_map_of_mem (mem_definedSchemas.2 hentry))
    | parameter hendpoint hp =>
      exact .inr ⟨_, hendpoint, Endpoint.mem_schemas.2 (.inl ⟨_, hp, rfl⟩)⟩
    | requestBody hendpoint hbody hs =>
      exact .inr ⟨_, hendpoint, Endpoint.mem_schemas.2 (.inr (.inl ⟨_, _, hbody, hs⟩))⟩
    | response hendpoint hresponse hs =>
      exact .inr ⟨_, hendpoint, Endpoint.mem_schemas.2 (.inr (.inr ⟨_, _, _, hresponse, hs⟩))⟩

theorem referencedNames_eq (spec : Spec) :
    spec.referencedNames = spec.contained.flatMap Schema.references := rfl

/-- The search looks at each schema of a document once, at any depth. At its end it has found the
names that the document refers to, and no other. -/
theorem referencedNames_exact (spec : Spec) :
    (∀ n last, Rounds Search.step ⟨∅, spec.contained.reverse⟩ n last ↔
      n = (spec.contained.map Schema.size).sum ∧ last = ⟨spec.referencedNames.toFinset, []⟩) ∧
    ∀ name, name ∈ spec.referencedNames ↔ ∃ s, spec.Contains s ∧ s.RefersTo name := by
  have hsize : Search.size ⟨∅, spec.contained.reverse⟩ = (spec.contained.map Schema.size).sum := by
    rw [Search.size, List.map_reverse, List.sum_reverse]
  have hnames : Search.names ⟨∅, spec.contained.reverse⟩ = spec.referencedNames.toFinset := by
    ext name
    simp [Search.names, referencedNames_eq]
  refine ⟨fun n last => ?_, fun name => ?_⟩
  · rw [← hsize, ← hnames]
    exact (Search.rounds _).iff_eq
  · simp only [referencedNames_eq, List.mem_flatMap, mem_contained, Schema.mem_references_iff]

example :
    let deep := Schema.object [("items", .array (.object [("owner", .reference "Owner")] []))] []
    let spec : Spec :=
      { endpoints := [
          { path := "/", method := "get", responses := [("404", [("application/json", deep)])] }] }
    spec.referencedNames = ["Owner"] ∧ (spec.contained.map Schema.size).sum = 4 := by
  decide

end Spec

end TypedClient
