import TypedClient.Render

namespace TypedClient

open Target

namespace Target.Expr

@[simp] theorem names_name (id : String) : (name id).names = [id] := rfl

@[simp] theorem names_constant (value : Constant) : (constant value).names = [] := rfl

@[simp] theorem names_attr (value : Expr) (key : String) : (attr value key).names = value.names := rfl

def namesAll (es : List Expr) : List String := (subtermsAll es).filterMap name?

@[simp] theorem namesAll_nil : namesAll [] = [] := rfl

@[simp] theorem namesAll_cons (e : Expr) (rest : List Expr) :
    namesAll (e :: rest) = e.names ++ namesAll rest := by
  simp [namesAll, names, subtermsAll]

@[simp] theorem names_subscript (value : Expr) (index : List Expr) :
    (subscript value index).names = value.names ++ namesAll index := by
  rw [names, subterms, List.filterMap_cons_none rfl, List.filterMap_append]
  rfl

def keywordNames (keywords : List (String × Expr)) : List String :=
  (keywordSubterms keywords).filterMap name?

@[simp] theorem keywordNames_nil : keywordNames [] = [] := rfl

@[simp] theorem keywordNames_cons (key : String) (e : Expr) (rest : List (String × Expr)) :
    keywordNames ((key, e) :: rest) = e.names ++ keywordNames rest := by
  simp [keywordNames, names, keywordSubterms]

@[simp] theorem names_call (function : Expr) (args : List Expr) (keywords : List (String × Expr)) :
    (call function args keywords).names =
      function.names ++ namesAll args ++ keywordNames keywords := by
  rw [names, subterms, List.filterMap_cons_none rfl, List.filterMap_append, List.filterMap_append]
  rfl

end Target.Expr

namespace TypeExpr

def headTarget (t : TypeExpr) : Expr :=
  match t.qualifier? with
  | none => .name t.name
  | some module => .attr (.name module) t.name

@[simp] theorem names_headTarget (t : TypeExpr) : t.headTarget.names = [t.headLookup] := by
  unfold headTarget headLookup
  cases t.qualifier? <;> rfl

theorem toTarget_leaf (name : String) (kind : Kind) :
    (mk name kind []).toTarget = (mk name kind []).headTarget := rfl

theorem toTarget_cons (name : String) (kind : Kind) (arg : TypeExpr) (rest : List TypeExpr) :
    (mk name kind (arg :: rest)).toTarget =
      .subscript (mk name kind (arg :: rest)).headTarget (toTargets (arg :: rest)) := rfl

mutual

theorem names_toTarget : (t : TypeExpr) → t.toTarget.names = t.lookups
  | mk name kind [] => by
    rw [toTarget_leaf, names_headTarget]
    rfl
  | mk name kind (arg :: rest) => by
    rw [toTarget_cons, Expr.names_subscript, names_headTarget, namesAll_toTargets (arg :: rest)]
    rfl

theorem namesAll_toTargets : (ts : List TypeExpr) → Expr.namesAll (toTargets ts) = lookupsAll ts
  | [] => rfl
  | t :: rest => by
    rw [toTargets, Expr.namesAll_cons, names_toTarget t, namesAll_toTargets rest]
    rfl

end

theorem lookups_optional (t : TypeExpr) : t.optional.lookups = "typing" :: t.lookups := by
  have hhead : headLookup t.optional = "typing" := by
    simp [headLookup, optional, qualifier?, moduleOf]
  simp only [optional] at hhead ⊢
  simp [lookups, lookupsAll, hhead]

theorem headLookup_mem_lookups (t : TypeExpr) : t.headLookup ∈ t.lookups := by
  cases t
  exact List.mem_cons_self

theorem mem_lookupsAll {x : String} {ts : List TypeExpr} :
    x ∈ lookupsAll ts ↔ ∃ t ∈ ts, x ∈ t.lookups := by
  induction ts with
  | nil => simp [lookupsAll]
  | cons t rest ih => simp [lookupsAll, ih]

end TypeExpr

end TypedClient
