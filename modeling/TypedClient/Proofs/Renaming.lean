import Mathlib.Data.Finset.Card
import Mathlib.Order.Bounds.Basic
import TypedClient.Proofs.FieldNames
import TypedClient.Proofs.ParameterNames
import TypedClient.Proofs.Rounds

namespace TypedClient

theorem append_underscores_injective (name : String) :
    Function.Injective fun n => name ++ underscores n := by
  intro m n h
  have hlength := congrArg String.length h
  simpa [underscores] using hlength

theorem le_card_of_forall_mem {taken : Finset String} {name : String} {k : Nat}
    (h : ∀ n < k, name ++ underscores n ∈ taken) : k ≤ taken.card := by
  have hmaps : ∀ n ∈ Finset.range k, name ++ underscores n ∈ taken :=
    fun n hn => h n (Finset.mem_range.1 hn)
  have hcard := Finset.card_le_card_of_injOn _ hmaps (append_underscores_injective name).injOn
  rwa [Finset.card_range] at hcard

theorem exists_firstFree_eq (taken : List String) (name : String) :
    ∃ k, firstFree taken name = name ++ underscores k ∧ ∀ n < k, name ++ underscores n ∈ taken := by
  induction taken, name using firstFree.induct with
  | case1 taken name h ih =>
    obtain ⟨k, hfree, htaken⟩ := ih
    rw [append_underscore_underscores] at hfree
    refine ⟨k + 1, ?_, fun n hn => ?_⟩
    · rw [firstFree, dif_pos h, hfree]
    · cases n with
      | zero => rwa [append_underscores_zero]
      | succ n =>
        -- a name refused later was in the list before the first one left it
        have hmem := htaken n (Nat.lt_of_succ_lt_succ hn)
        rw [append_underscore_underscores] at hmem
        exact List.mem_of_mem_erase hmem
  | case2 taken name h =>
    refine ⟨0, ?_, fun n hn => absurd hn n.not_lt_zero⟩
    rw [firstFree, dif_neg h, append_underscores_zero]

/-- A name on its way to one that is free, and the names that are taken meanwhile. -/
structure Renaming where
  taken : Finset String
  name : String

def Renaming.step (r : Renaming) : Option Renaming :=
  if r.name ∈ r.taken then some { r with name := r.name ++ "_" } else none

theorem rounds_of_forall_mem {taken : Finset String} {name : String} {k : Nat}
    (htaken : ∀ n < k, name ++ underscores n ∈ taken) (hfree : name ++ underscores k ∉ taken) :
    Rounds Renaming.step ⟨taken, name⟩ k ⟨taken, name ++ underscores k⟩ := by
  -- on the rounds still to come: each of them begins with a longer name
  induction k generalizing name with
  | zero =>
    rw [append_underscores_zero] at hfree ⊢
    exact .stop (if_neg hfree)
  | succ k ih =>
    have hname : name ∈ taken := by
      simpa only [append_underscores_zero] using htaken 0 k.succ_pos
    rw [← append_underscore_underscores] at hfree ⊢
    refine .next (if_pos hname) (ih (fun n hn => ?_) hfree)
    rw [append_underscore_underscores]
    exact htaken (n + 1) (Nat.succ_lt_succ hn)

inductive Claims (taken : Finset String) (name : String) : String → Finset String → Prop
  | intro {n : Nat} {last : Renaming} :
      Rounds Renaming.step ⟨taken, name⟩ n last →
        Claims taken name last.name (insert last.name last.taken)

inductive ClaimsAll : Finset String → List String → List String → Finset String → Prop
  | nil {taken : Finset String} : ClaimsAll taken [] [] taken
  | cons {taken between after : Finset String} {name free : String} {rest frees : List String} :
      Claims taken name free between → ClaimsAll between rest frees after →
        ClaimsAll taken (name :: rest) (free :: frees) after

theorem rounds_firstFree (taken : List String) (name : String) :
    ∃ k ≤ taken.toFinset.card,
      IsLeast {n | name ++ underscores n ∉ taken} k ∧
      firstFree taken name = name ++ underscores k ∧
      Rounds Renaming.step ⟨taken.toFinset, name⟩ k ⟨taken.toFinset, firstFree taken name⟩ := by
  obtain ⟨k, heq, htaken⟩ := exists_firstFree_eq taken name
  have hfree : name ++ underscores k ∉ taken := heq ▸ firstFree_not_mem taken name
  have htaken' : ∀ n < k, name ++ underscores n ∈ taken.toFinset :=
    fun n hn => List.mem_toFinset.2 (htaken n hn)
  refine ⟨k, le_card_of_forall_mem htaken', ⟨hfree, fun n hn => ?_⟩, heq, ?_⟩
  · exact Nat.le_of_not_lt fun hlt => hn (htaken n hlt)
  · rw [heq]
    exact rounds_of_forall_mem htaken' (mt List.mem_toFinset.1 hfree)

theorem claims_iff {taken : List String} {name free : String} {after : Finset String} :
    Claims taken.toFinset name free after ↔
      free = firstFree taken name ∧ after = insert free taken.toFinset := by
  obtain ⟨k, -, -, -, hrounds⟩ := rounds_firstFree taken name
  constructor
  · rintro ⟨h⟩
    obtain ⟨-, rfl⟩ := hrounds.unique h
    exact ⟨rfl, rfl⟩
  · rintro ⟨rfl, rfl⟩
    exact .intro hrounds

theorem claimsAll_cons_iff {taken frees rest : List String} {name : String}
    {after : Finset String} :
    ClaimsAll taken.toFinset (name :: rest) frees after ↔
      ∃ frees', frees = firstFree taken name :: frees' ∧
        ClaimsAll (firstFree taken name :: taken).toFinset rest frees' after := by
  -- what the first claim leaves taken is again a list of names
  have hinsert : insert (firstFree taken name) taken.toFinset =
      (firstFree taken name :: taken).toFinset := List.toFinset_cons.symm
  constructor
  · rintro (_ | ⟨hclaim, hrest⟩)
    obtain ⟨rfl, rfl⟩ := claims_iff.1 hclaim
    exact ⟨_, rfl, hinsert ▸ hrest⟩
  · rintro ⟨frees', rfl, hrest⟩
    exact .cons (claims_iff.2 ⟨rfl, rfl⟩) (hinsert ▸ hrest)

theorem claimsAll_iff {taken names frees : List String} {after : Finset String} :
    ClaimsAll taken.toFinset names frees after ↔
      frees = firstFreeAll taken names ∧ after = taken.toFinset ∪ frees.toFinset := by
  induction names generalizing taken frees with
  | nil =>
    constructor
    · rintro ⟨⟩
      simp [firstFreeAll]
    · rintro ⟨rfl, rfl⟩
      simpa [firstFreeAll] using ClaimsAll.nil
  | cons name rest ih =>
    have hunion : ∀ frees' : List String,
        (firstFree taken name :: taken).toFinset ∪ frees'.toFinset =
          taken.toFinset ∪ (firstFree taken name :: frees').toFinset := by
      intro frees'
      simp only [List.toFinset_cons, Finset.insert_union, Finset.union_insert]
    rw [claimsAll_cons_iff]
    simp only [ih, firstFreeAll]
    constructor
    · rintro ⟨frees', rfl, rfl, rfl⟩
      exact ⟨rfl, hunion _⟩
    · rintro ⟨rfl, rfl⟩
      exact ⟨_, rfl, rfl, (hunion _).symm⟩

theorem Plan.map_declared_nameParameters (taken : List String) (parameters : List Parameter) :
    (nameParameters taken parameters).map declared = parameters.map toDeclared := by
  induction parameters generalizing taken with
  | nil => rfl
  | cons p rest ih =>
    rw [nameParameters, List.map_cons, List.map_cons, ih]
    rfl

/-- The loop ends within as many rounds as there are taken names, at the name with the fewest
underscores that is free, and a claim takes this name and no other. The parameters of a plan, after
its body, and the fields of a model have the names that are claimed for them one after another. -/
theorem claims_exact :
    (∀ (taken : List String) (name : String), ∃ k ≤ taken.toFinset.card,
      IsLeast {n | name ++ underscores n ∉ taken} k ∧
      firstFree taken name = name ++ underscores k ∧
      (∀ n last, Rounds Renaming.step ⟨taken.toFinset, name⟩ n last ↔
        n = k ∧ last = ⟨taken.toFinset, firstFree taken name⟩) ∧
      ∀ free after, Claims taken.toFinset name free after ↔
        free = firstFree taken name ∧ after = insert free taken.toFinset) ∧
    (∀ endpoint, ∃ (body : String) (named : List PlannedParameter) (after : Finset String),
      ClaimsAll (Plan.reserved endpoint).toFinset
        (Plan.bodyName :: endpoint.parameters.map fun p => Plan.parameterName p.name)
        (body :: named.map (·.name)) after ∧
      named.map Plan.declared = endpoint.parameters.map Plan.toDeclared ∧
      (Plan.ofEndpoint endpoint).pathParameters = named.filter (·.role = .path) ∧
      (Plan.ofEndpoint endpoint).queryParameters = named.filter (·.role = .query) ∧
      ((Plan.ofEndpoint endpoint).body.toList.map (·.name)).Sublist [body]) ∧
    ∀ name properties required, ∃ (fields : List Field) (after : Finset String),
      Definition.ofSchema name (.object properties required) = .model name fields ∧
      ClaimsAll (Definition.reserved properties).toFinset
        (properties.map fun p => identifier [] (Text.upperLead p.1)) (fields.map (·.name)) after ∧
      fields.map (·.sourceName) = properties.map (·.1) := by
  refine ⟨fun taken name => ?_, fun endpoint => ?_, fun name properties required => ?_⟩
  · obtain ⟨k, hcard, hleast, hfree, hrounds⟩ := rounds_firstFree taken name
    exact ⟨k, hcard, hleast, hfree, fun n last => hrounds.iff_eq, fun free after => claims_iff⟩
  · refine ⟨Plan.bodyClaim endpoint, Plan.named endpoint, _, claimsAll_iff.2 ⟨?_, rfl⟩,
      Plan.map_declared_nameParameters _ _, Plan.pathParameters_ofEndpoint endpoint,
      Plan.queryParameters_ofEndpoint endpoint, Plan.map_name_body_sublist endpoint⟩
    rw [← Plan.claims_eq, Plan.claims]
  · refine ⟨Definition.fields properties required, _, Definition.ofSchema_object _ _ _,
      claimsAll_iff.2 ⟨?_, rfl⟩, ?_⟩
    · rw [Definition.map_name_fields, Definition.typed, List.map_map]
      rfl
    · rw [Definition.fields, Definition.map_sourceName_nameFields, Definition.typed, List.map_map]
      rfl

end TypedClient
