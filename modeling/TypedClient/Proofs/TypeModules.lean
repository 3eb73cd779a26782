import Mathlib.Data.List.Dedup
import TypedClient.Proofs.Imports

/-!
Three walks over a type agree: what its look-ups predict is what its rendered form looks up, and the
modules that a stack of types gathers are those that rendered types are qualified by.
-/

namespace TypedClient

open Target

namespace TypeExpr

mutual

def size : TypeExpr → Nat
  | mk _ _ args => sizeAll args + 1

def sizeAll : List TypeExpr → Nat
  | [] => 0
  | t :: rest => t.size + sizeAll rest

end

theorem size_eq (t : TypeExpr) : t.size = sizeAll t.args + 1 := by
  cases t
  rfl

theorem sizeAll_append (ts us : List TypeExpr) : sizeAll (ts ++ us) = sizeAll ts + sizeAll us := by
  induction ts with
  | nil => simp [sizeAll]
  | cons t rest ih => simp only [List.cons_append, sizeAll, ih, Nat.add_assoc]

theorem sizeAll_reverse (ts : List TypeExpr) : sizeAll ts.reverse = sizeAll ts := by
  induction ts with
  | nil => rfl
  | cons t rest ih => simp only [List.reverse_cons, sizeAll_append, sizeAll, ih]; omega

def gather (found : List String) : List TypeExpr → List String
  | [] => found
  | t :: rest => gather (t.qualifier?.elim found found.insert) (t.args.reverse ++ rest)
termination_by pending => sizeAll pending
decreasing_by
  rw [sizeAll_append, sizeAll_reverse, sizeAll, size_eq]
  omega

theorem mem_insertQualifier {t : TypeExpr} {found : List String} {q : String} :
    q ∈ t.qualifier?.elim found found.insert ↔ q ∈ found ∨ q ∈ t.qualifier?.toList := by
  cases t.qualifier? with
  | none => simp
  | some module => simp [or_comm]

theorem qualifiers_eq (t : TypeExpr) :
    t.qualifiers = t.qualifier?.toList ++ qualifiersAll t.args := by
  cases t
  rfl

theorem mem_gather {found : List String} {pending : List TypeExpr} {q : String} :
    q ∈ gather found pending ↔ q ∈ found ∨ ∃ t ∈ pending, q ∈ t.qualifiers := by
  induction found, pending using gather.induct with
  | case1 found => simp [gather]
  | case2 found t rest ih =>
    have hstack : (∃ u ∈ t.args.reverse ++ rest, q ∈ u.qualifiers) ↔
        q ∈ qualifiersAll t.args ∨ ∃ u ∈ rest, q ∈ u.qualifiers := by
      simp [mem_qualifiersAll, or_and_right, exists_or]
    rw [gather, ih, mem_insertQualifier, hstack, List.exists_mem_cons_iff, qualifiers_eq,
      List.mem_append]
    simp only [or_assoc]

theorem nodup_gather {found : List String} {pending : List TypeExpr} (h : found.Nodup) :
    (gather found pending).Nodup := by
  induction found, pending using gather.induct with
  | case1 found => rwa [gather]
  | case2 found t rest ih =>
    rw [gather]
    refine ih ?_
    cases t.qualifier? with
    | none => exact h
    | some module => exact h.insert

inductive Part : Expr → Prop
  | name (id : String) : Part (.name id)
  | member (module key : String) : Part (.attr (.name module) key)
  | subscript (value : Expr) (index : List Expr) : Part (.subscript value index)

theorem part_of_mem_headTarget {t : TypeExpr} {e : Expr} (he : e ∈ t.headTarget.subterms) :
    Part e := by
  unfold headTarget at he
  cases h : t.qualifier? with
  | none =>
    rw [h] at he
    obtain rfl := List.mem_singleton.1 he
    exact .name _
  | some module =>
    rw [h] at he
    simp only [Expr.subterms, List.mem_cons, List.not_mem_nil, or_false] at he
    rcases he with rfl | rfl
    · exact .member _ _
    · exact .name _

mutual

theorem part_of_mem_toTarget : (t : TypeExpr) → ∀ e ∈ t.toTarget.subterms, Part e
  | mk name kind [] => fun _ he => part_of_mem_headTarget (toTarget_leaf name kind ▸ he)
  | mk name kind (arg :: rest) => by
    intro e he
    rw [toTarget_cons, Expr.subterms, List.mem_cons, List.mem_append] at he
    rcases he with rfl | he | he
    · exact .subscript _ _
    · exact part_of_mem_headTarget he
    · exact part_of_mem_toTargets (arg :: rest) e he

theorem part_of_mem_toTargets :
    (ts : List TypeExpr) → ∀ e ∈ Expr.subtermsAll (toTargets ts), Part e
  | [] => by simp [toTargets, Expr.subtermsAll]
  | t :: rest => by
    intro e he
    rw [toTargets, Expr.subtermsAll, List.mem_append] at he
    exact he.elim (part_of_mem_toTarget t e) (part_of_mem_toTargets rest e)

end

end TypeExpr

namespace Target.Expr

theorem mem_names {e : Expr} {x : String} : x ∈ e.names ↔ .name x ∈ e.subterms := by
  rw [names, List.mem_filterMap]
  constructor
  · rintro ⟨part, hpart, hname⟩
    cases part <;> cases hname
    exact hpart
  · exact fun h => ⟨_, h, rfl⟩

theorem mem_qualifiers {e : Expr} {q : String} :
    q ∈ e.qualifiers ↔ ∃ key, .attr (.name q) key ∈ e.subterms := by
  rw [qualifiers, List.mem_filterMap]
  constructor
  · rintro ⟨part, hpart, hqualifier⟩
    unfold qualifier? at hqualifier
    split at hqualifier
    next module key =>
      obtain rfl := Option.some.inj hqualifier
      exact ⟨key, hpart⟩
    next => cases hqualifier
  · rintro ⟨key, h⟩
    exact ⟨_, h, rfl⟩

end Target.Expr

theorem Render.mem_typeModules_typeAlias {name q : String} {t : TypeExpr} :
    q ∈ Render.typeModules [.typeAlias name t] [] ↔ q ∈ t.qualifiers := by
  simp [typeModules, definitionTypes, factoryModules, TypeExpr.mem_qualifiersAll]

namespace TypeExpr

/-- A rendered type looks up the names that were predicted and no others, and it has members of
exactly the modules that were gathered from it. -/
theorem lookups_exact (t : TypeExpr) :
    (∀ x, x ∈ t.lookups ↔ .name x ∈ t.toTarget.subterms) ∧
      (gather [] [t]).Nodup ∧
      (∀ q, q ∈ gather [] [t] ↔ ∃ key, .attr (.name q) key ∈ t.toTarget.subterms) ∧
      (∀ value key, .attr value key ∈ t.toTarget.subterms → ∃ q ∈ gather [] [t], value = .name q) ∧
      ∀ name q, q ∈ Render.typeModules [.typeAlias name t] [] ↔ q ∈ gather [] [t] := by
  have hgather : ∀ q, q ∈ gather [] [t] ↔ q ∈ t.qualifiers := fun q => by simp [mem_gather]
  have hmodules : ∀ q, q ∈ gather [] [t] ↔ ∃ key, .attr (.name q) key ∈ t.toTarget.subterms := by
    intro q
    rw [hgather, ← qualifiers_toTarget, Expr.mem_qualifiers]
  refine ⟨fun x => ?_, nodup_gather .nil, hmodules, fun value key h => ?_, fun name q => ?_⟩
  · rw [← names_toTarget, Expr.mem_names]
  · cases part_of_mem_toTarget t _ h with
    | member module key => exact ⟨module, (hmodules module).2 ⟨key, h⟩, rfl⟩
  · rw [hgather, Render.mem_typeModules_typeAlias]

example :
    let t := mk "Optional" .reference [mk "list" .array [mk "datetime" .reference []]]
    t.lookups = ["typing", "list", "datetime"] ∧ gather [] [t] = ["typing"] := by
  refine ⟨by decide, ?_⟩
  simp [gather, qualifier?, moduleOf, args]

end TypeExpr

end TypedClient
