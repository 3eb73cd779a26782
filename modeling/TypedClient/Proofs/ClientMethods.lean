import TypedClient.Proofs.BoundNames
import TypedClient.Proofs.Extraction
import TypedClient.Proofs.LetterCase
import TypedClient.Proofs.MissingSchemas

/-!
What the names of the client class are bound to once its body has run: the last function of a name
wins, so a planned method that is called like a support function is lost, or takes its place. Only
an operation id can give such a name.
-/

namespace TypedClient

open Target

namespace Target

def Class.last? (c : Class) (bind : String → String) (name : String) : Option Function :=
  c.functions.reverse.find? fun f => bind f.name = name

variable {c : Class} {bind : String → String} {f : Function} {name : String}

theorem Class.method?_eq_last? (c : Class) : c.method? = c.last? c.bound := rfl

theorem Class.bind_of_last? (h : c.last? bind name = some f) : bind f.name = name := by
  simpa using List.find?_some h

theorem Class.last?_eq_some (hnodup : (c.functions.map fun f => bind f.name).Nodup)
    (hf : f ∈ c.functions) : c.last? bind (bind f.name) = some f :=
  Text.find?_reverse_of_nodup hnodup hf

end Target

namespace Render

def support : List Function := [constructor, send, sendNoContent]

def supportNames : List String := support.map (·.name)

theorem method_not_mem_support (plan : Plan) : method plan ∉ support := by
  simp only [support, List.mem_cons, List.not_mem_nil, or_false, not_or]
  refine ⟨fun h => ?_, fun h => ?_, fun h => ?_⟩
  · have hasync := congrArg Function.isAsync h
    cases hasync
  · have hdoc := congrArg Function.doc h
    cases hdoc
  · have hdoc := congrArg Function.doc h
    cases hdoc

theorem functions_perm (className : String) (plans : List Plan) :
    (clientClass className plans).functions.Perm (support ++ plans.map method) := by
  rw [functions_clientClass, support, List.cons_append, List.cons_append]
  exact (List.perm_append_comm).cons _

theorem bound_support (c : Target.Class) : ∀ name ∈ supportNames, c.bound name = name := by
  intro name hname
  rcases List.mem_cons.1 hname with rfl | hname
  · exact c.bound_constructor
  · exact c.bound_eq (bound_helpers name hname).1 (bound_helpers name hname).2

end Render

namespace Spec

/-- Each planned method is found by its name, and so are the functions that make a client and send
its requests. -/
structure Reaches (spec : Spec) (find : String → Option Function) : Prop where
  methods : ∀ plan ∈ spec.plans, find plan.methodName = some (Render.method plan)
  support : ∀ f ∈ Render.support, find f.name = some f

variable {spec : Spec} {options : Options}

theorem Reaches.not_mem_supportNames {find : String → Option Function} (h : spec.Reaches find)
    {plan : Plan} (hplan : plan ∈ spec.plans) : plan.methodName ∉ Render.supportNames := by
  intro hname
  obtain ⟨f, hf, heq⟩ := List.mem_map.1 hname
  have hfound := h.support f hf
  rw [heq, h.methods plan hplan] at hfound
  exact Render.method_not_mem_support plan (Option.some.inj hfound ▸ hf)

theorem reaches_iff {bind : String → String} (hnodup : (spec.plans.map (·.methodName)).Nodup)
    (hsupport : ∀ name ∈ Render.supportNames, bind name = name) :
    spec.Reaches ((spec.client options).last? bind) ↔
      ∀ plan ∈ spec.plans,
        plan.methodName ∉ Render.supportNames ∧ bind plan.methodName = plan.methodName := by
  constructor
  · intro h plan hplan
    exact ⟨h.not_mem_supportNames hplan, Class.bind_of_last? (h.methods plan hplan)⟩
  · intro h
    have hperm : (spec.client options).functions.Perm _ := Render.functions_perm _ _
    have hbound : ∀ f ∈ (spec.client options).functions, bind f.name = f.name := by
      intro f hf
      rcases List.mem_append.1 (hperm.mem_iff.1 hf) with hf | hf
      · exact hsupport f.name (List.mem_map_of_mem hf)
      · obtain ⟨plan, hplan, rfl⟩ := List.mem_map.1 hf
        exact (h plan hplan).2
    have hnames : ((spec.client options).functions.map fun f => bind f.name).Nodup := by
      rw [List.map_congr_left hbound, (hperm.map _).nodup_iff, List.map_append, List.map_map,
        List.nodup_append']
      refine ⟨by decide, hnodup, fun name hname hmethod => ?_⟩
      obtain ⟨plan, hplan, rfl⟩ := List.mem_map.1 hmethod
      exact (h plan hplan).1 hname
    have hlast : ∀ f ∈ (spec.client options).functions,
        (spec.client options).last? bind f.name = some f := by
      intro f hf
      have hfound := Class.last?_eq_some hnames hf
      rwa [hbound f hf] at hfound
    constructor
    · intro plan hplan
      have hmem : Render.method plan ∈ spec.plans.map Render.method := List.mem_map_of_mem hplan
      exact hlast (Render.method plan) (hperm.mem_iff.2 (List.mem_append_right _ hmem))
    · exact fun f hf => hlast f (hperm.mem_iff.2 (List.mem_append_left _ hf))

theorem reaches_written_iff (hnodup : (spec.plans.map (·.methodName)).Nodup) :
    spec.Reaches ((spec.client options).last? id) ↔
      ∀ plan ∈ spec.plans, plan.methodName ∉ Render.supportNames := by
  have hwritten : spec.Reaches ((spec.client options).last? id) ↔ _ :=
    reaches_iff hnodup fun name _ => id_eq name
  simpa using hwritten

end Spec

namespace Plan

theorem identifier_mem_supportNames_iff {name : String} :
    identifier [] name ∈ Render.supportNames ↔ name ∈ Render.supportNames := by
  have hpushed : ∀ word ∈ keywords, word ++ "_" ∉ Render.supportNames := by decide
  have hkept : ∀ word ∈ keywords, word ∉ Render.supportNames := by decide
  simp only [identifier, List.not_mem_nil, or_false]
  split
  next h => exact iff_of_false (hpushed name h) (hkept name h)
  next => rfl

theorem underscore_of_mem_supportNames {name : String} (h : name ∈ Render.supportNames) :
    name.toList.head? = some '_' := by
  have hall : ∀ name ∈ Render.supportNames, name.toList.head? = some '_' := by decide
  exact hall name h

theorem upperLead_mem_supportNames_iff {id : String} :
    Text.upperLead id ∈ Render.supportNames ↔ id ∈ Render.supportNames := by
  constructor
  · intro h
    have hid := Text.underscore_of_upperLead (underscore_of_mem_supportNames h)
    rwa [Text.upperLead_of_underscore hid] at h
  · intro h
    rwa [Text.upperLead_of_underscore (underscore_of_mem_supportNames h)]

theorem verbName_not_mem_supportNames {verb : String} (hverb : verb ∈ Extract.verbs.map Text.upper)
    (rest : String) : Text.upperLead (Text.lower verb) ++ rest ∉ Render.supportNames := by
  have hlead : ∀ verb ∈ Extract.verbs.map Text.upper,
      (Text.upperLead (Text.lower verb)).toList.head?.any (· ≠ '_') = true := by
    decide +kernel
  obtain ⟨c, hc, hne⟩ := (Option.any_eq_true _ _).1 (hlead verb hverb)
  intro h
  have hunderscore := underscore_of_mem_supportNames h
  rw [String.toList_append, List.head?_append, hc, Option.some_or] at hunderscore
  obtain rfl := Option.some.inj hunderscore
  simp at hne

theorem methodName_mem_supportNames_iff {endpoint : Endpoint}
    (hverb : endpoint.method ∈ Extract.verbs.map Text.upper) :
    (ofEndpoint endpoint).methodName ∈ Render.supportNames ↔
      ∃ id ∈ endpoint.operationId, id ∈ Render.supportNames := by
  rw [ofEndpoint, identifier_mem_supportNames_iff, TypedClient.methodName]
  split
  next id hid =>
    obtain ⟨hid, -⟩ := Option.filter_eq_some_iff.1 hid
    rw [upperLead_mem_supportNames_iff, hid]
    simp
  next hnone =>
    refine iff_of_false (verbName_not_mem_supportNames hverb _) ?_
    rintro ⟨id, hid, hmem⟩
    obtain rfl : id = "" := by
      have hempty := Option.filter_eq_none_iff.1 hnone id hid
      simpa using hempty
    exact absurd hmem (by decide)

end Plan

namespace Spec

variable {spec : Spec} {options : Options}

theorem reaches_iff_operationId {document : Value} (h : Spec.ofDocument document = .ok spec)
    (hwarnings : spec.warnings options = []) :
    spec.Reaches ((spec.client options).last? id) ↔
      ∀ endpoint ∈ spec.endpoints, ∀ id ∈ endpoint.operationId, id ∉ Render.supportNames := by
  rw [reaches_written_iff (warnings_eq_nil_iff.1 hwarnings).1, plans, List.forall_mem_map]
  refine forall₂_congr fun endpoint hendpoint => ?_
  rw [Plan.methodName_mem_supportNames_iff (method_mem_verbs h endpoint hendpoint)]
  simp

/-- Without warnings all methods are reached by the names that are written exactly if none is
called like a support function, and by the names that the class binds exactly if it also binds them
as they are written. -/
theorem reaches_of_no_warnings (h : spec.warnings options = []) :
    (spec.Reaches ((spec.client options).last? id) ↔
        ∀ plan ∈ spec.plans, plan.methodName ∉ Render.supportNames) ∧
      (spec.Reaches (spec.client options).method? ↔
        ∀ plan ∈ spec.plans, plan.methodName ∉ Render.supportNames ∧
          (spec.client options).bound plan.methodName = plan.methodName) := by
  have hnodup := (warnings_eq_nil_iff.1 h).1
  rw [Class.method?_eq_last?]
  exact ⟨reaches_written_iff hnodup, reaches_iff hnodup (Render.bound_support _)⟩

def twoMethods : Spec :=
  { endpoints :=
      [{ path := "/pets", method := "get", operationId := some "listPets" },
       { path := "/pets", method := "post",
         requestBody := some [("application/json", .untyped)] }] }

theorem twoMethods_reached :
    twoMethods.warnings {} = [] ∧ twoMethods.Reaches ((twoMethods.client {}).last? id) ∧
      twoMethods.Reaches (twoMethods.client {}).method? := by
  have hwarnings : twoMethods.warnings {} = [] := by decide +kernel
  have hreaches := reaches_of_no_warnings hwarnings
  exact ⟨hwarnings, hreaches.1.2 (by decide +kernel), hreaches.2.2 (by decide +kernel)⟩

def overshadowed : Spec :=
  { endpoints := [{ path := "/a", method := "get", operationId := some "_send_request" }] }

theorem overshadowed_lost :
    overshadowed.warnings {} = [] ∧
      ¬overshadowed.Reaches ((overshadowed.client {}).last? id) ∧
        ¬overshadowed.Reaches (overshadowed.client {}).method? := by
  have hname : ∃ plan ∈ overshadowed.plans, plan.methodName ∈ Render.supportNames :=
    ⟨_, List.mem_singleton_self _, by decide⟩
  obtain ⟨plan, hplan, hname⟩ := hname
  refine ⟨by decide +kernel, fun h => ?_, fun h => ?_⟩
  · exact h.not_mem_supportNames hplan hname
  · exact h.not_mem_supportNames hplan hname

end Spec

end TypedClient
