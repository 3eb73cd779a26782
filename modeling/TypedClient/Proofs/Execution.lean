import Mathlib.Data.List.Forall2
import TypedClient.Target.Execution

namespace TypedClient.Target.Execution

attribute [simp] eval evalAll evalKeywords exec execAll

section

variable {scope : List String} {s s' : State}

theorem lookup_of_bound {name : String} {d : Datum} (h : s.locals.lookup name = some d) :
    s.lookup scope name = .ok d := by
  simp [State.lookup, h]

theorem lookup_global {name : String} (hlocal : s.locals.lookup name = none)
    (hscope : name ∉ scope) : s.lookup scope name = .ok (.global name) := by
  simp [State.lookup, hlocal, hscope]

def Gives (scope : List String) (s : State) (e : Expr) (d : Datum) : Prop :=
  eval scope e s = .ok (d, s)

theorem Gives.name {name : String} {d : Datum} (h : s.lookup scope name = .ok d) :
    Gives scope s (.name name) d := by
  rw [Gives, eval, h]
  rfl

theorem Gives.constant (c : Constant) : Gives scope s (.constant c) (.ofConstant c) := by
  rw [Gives, eval]
  rfl

theorem Gives.attr {e : Expr} {d : Datum} (h : Gives scope s e d) (key : String) :
    Gives scope s (.attr e key) (.attribute d key) := by
  rw [Gives] at h ⊢
  rw [eval, h]
  rfl

theorem evalAll_of_forall₂ {es : List Expr} {ds : List Datum}
    (h : List.Forall₂ (Gives scope s) es ds) : evalAll scope es s = .ok (ds, s) := by
  induction h with
  | nil => rw [evalAll]; rfl
  | cons hd _ ih =>
    rw [Gives] at hd
    rw [evalAll, hd]
    simp only [bind, Except.bind, ih]
    rfl

theorem Gives.subscript {e : Expr} {d : Datum} {es : List Expr} {ds : List Datum}
    (h : Gives scope s e d) (hindex : List.Forall₂ (Gives scope s) es ds) :
    Gives scope s (.subscript e es) (.element d ds) := by
  rw [Gives] at h ⊢
  rw [eval, h]
  simp only [bind, Except.bind, evalAll_of_forall₂ hindex]
  rfl

theorem Gives.add {l r : Expr} {x y : String} (hl : Gives scope s l (.text x))
    (hr : Gives scope s r (.text y)) : Gives scope s (.add l r) (.text (x ++ y)) := by
  rw [Gives] at hl hr ⊢
  rw [eval, hl]
  simp only [bind, Except.bind, hr]
  rfl

theorem Gives.isNotNone {e : Expr} {d : Datum} (h : Gives scope s e d) :
    Gives scope s (.isNotNone e) (.bool !d.isNone) := by
  rw [Gives] at h ⊢
  rw [eval, h]
  rfl

theorem Gives.conditional {test body otherwise : Expr} {t d : Datum} {b : Bool}
    (htest : Gives scope s test t) (htruth : s.truth t = .ok b)
    (hbranch : Gives scope s (if b then body else otherwise) d) :
    Gives scope s (.conditional test body otherwise) d := by
  rw [Gives] at htest hbranch ⊢
  rw [eval, htest]
  simp only [bind, Except.bind, htruth]
  cases b <;> exact hbranch

theorem Gives.formatted {parts : List FormatPart} {t : String}
    (h : s.format scope parts = .ok t) : Gives scope s (.formatted parts) (.text t) := by
  rw [Gives, eval, h]
  rfl

theorem format_text {t : String} {rest : List FormatPart} {r : String}
    (h : s.format scope rest = .ok r) : s.format scope (.text t :: rest) = .ok (t ++ r) := by
  rw [State.format, h]
  rfl

theorem format_hole {name t : String} {rest : List FormatPart} {r : String}
    (hname : s.lookup scope name = .ok (.text t)) (h : s.format scope rest = .ok r) :
    s.format scope (.hole name :: rest) = .ok (t ++ r) := by
  rw [State.format, hname]
  simp only [bind, Except.bind, Datum.format, h]
  rfl

theorem eval_call {function : Expr} {d : Datum} {args : List Expr} {ds : List Datum}
    (hfunction : Gives scope s function d) (hargs : List.Forall₂ (Gives scope s) args ds) :
    eval scope (.call function args []) s = s.call d ds [] := by
  rw [Gives] at hfunction
  rw [eval, hfunction]
  simp only [bind, Except.bind, evalAll_of_forall₂ hargs]
  rw [evalKeywords]
  rfl

theorem eval_await {e : Expr} {n : Nat} (h : eval scope e s = .ok (.awaitable n, s')) :
    eval scope (.await e) s = .ok (.reply n, s') := by
  rw [eval, h]
  rfl

theorem call_append {place : Nat} {items : List Datum} (h : s.lists[place]? = some items)
    (d : Datum) :
    s.call (.attribute (.list place) "append") [d] [] =
      .ok (.none, s.replace place (items ++ [d])) := by
  simp [State.call, State.items, h, bind, Except.bind, pure, Except.pure]

theorem call_join {place : Nat} {items : List String} (separator : String)
    (h : s.lists[place]? = some (items.map .text)) :
    s.call (.attribute (.text separator) "join") [.list place] [] =
      .ok (.text (separator.intercalate items), s) := by
  have hitems : (items.map Datum.text).filterMap Datum.text? = items := by
    rw [List.filterMap_map]
    exact List.filterMap_some
  simp [State.call, State.items, h, hitems, bind, Except.bind, pure, Except.pure, Datum.text?]

theorem call_client (helper : String) (args : List Datum) :
    s.call (.attribute .client helper) args [] =
      .ok (.awaitable s.calls.length, s.record ⟨helper, args, []⟩) := by
  simp [State.call, pure, Except.pure]

theorem exec_expr {e : Expr} {d : Datum} (h : eval scope e s = .ok (d, s')) :
    exec scope (.expr e) s = .ok (none, s') := by
  rw [exec, h]
  rfl

theorem exec_assign {id : String} {e : Expr} {d : Datum} (h : eval scope e s = .ok (d, s')) :
    exec scope (.assign (.name id) e) s = .ok (none, s'.bind id d) := by
  rw [exec, h]
  rfl

theorem exec_ret {e : Expr} {d : Datum} (h : eval scope e s = .ok (d, s')) :
    exec scope (.ret e) s = .ok (some d, s') := by
  rw [exec, h]
  rfl

theorem exec_ifThen {test : Expr} {b : Bool} (h : Gives scope s test (.bool b))
    (body : List Stmt) :
    exec scope (.ifThen test body) s = if b then execAll scope body s else .ok (none, s) := by
  rw [Gives] at h
  rw [exec, h]
  rfl

theorem execAll_nil : execAll scope [] s = .ok (none, s) := by
  rw [execAll]
  rfl

theorem execAll_cons {st : Stmt} {rest : List Stmt} (h : exec scope st s = .ok (none, s')) :
    execAll scope (st :: rest) s = execAll scope rest s' := by
  rw [execAll, h]
  rfl

theorem execAll_append {xs ys : List Stmt} (h : execAll scope xs s = .ok (none, s')) :
    execAll scope (xs ++ ys) s = execAll scope ys s' := by
  induction xs generalizing s with
  | nil => cases h; rfl
  | cons st rest ih =>
    rw [execAll] at h
    cases hst : exec scope st s with
    | error f => rw [hst] at h; cases h
    | ok r =>
      obtain ⟨returned, s''⟩ := r
      rw [hst] at h
      cases returned with
      | some d => cases h
      | none => rw [List.cons_append, execAll_cons hst, ih h]

end

end TypedClient.Target.Execution
