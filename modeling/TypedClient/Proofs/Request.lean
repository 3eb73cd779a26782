import TypedClient.Proofs.Execution
import TypedClient.Proofs.PathExpr
import TypedClient.Proofs.TypeLookup

namespace TypedClient

open Target Target.Execution

namespace TypeExpr

def headDatum (look : String → Datum) (t : TypeExpr) : Datum :=
  match t.qualifier? with
  | none => look t.name
  | some module => .attribute (look module) t.name

mutual

def datum (look : String → Datum) : TypeExpr → Datum
  | mk name kind [] => headDatum look (mk name kind [])
  | mk name kind (arg :: rest) =>
    .element (headDatum look (mk name kind (arg :: rest))) (datum look arg :: data look rest)

def data (look : String → Datum) : List TypeExpr → List Datum
  | [] => []
  | t :: rest => datum look t :: data look rest

end

theorem headDatum_congr {look look' : String → Datum} {t : TypeExpr}
    (h : look t.headLookup = look' t.headLookup) : headDatum look t = headDatum look' t := by
  unfold headDatum
  unfold headLookup at h
  cases hq : t.qualifier? <;> simp_all

mutual

theorem datum_congr {look look' : String → Datum} :
    (t : TypeExpr) → (∀ x ∈ t.lookups, look x = look' x) → t.datum look = t.datum look'
  | mk name kind [], h => headDatum_congr (h _ List.mem_cons_self)
  | mk name kind (arg :: rest), h => by
    rw [datum, datum, headDatum_congr (h _ List.mem_cons_self)]
    have hargs := data_congr (arg :: rest) fun x hx => h x (List.mem_cons_of_mem _ hx)
    exact congrArg _ hargs

theorem data_congr {look look' : String → Datum} :
    (ts : List TypeExpr) → (∀ x ∈ lookupsAll ts, look x = look' x) → data look ts = data look' ts
  | [], _ => rfl
  | t :: rest, h => by
    rw [data, data, datum_congr t fun x hx => h x (List.mem_append_left _ hx),
      data_congr rest fun x hx => h x (List.mem_append_right _ hx)]

end

section

variable {scope : List String} {s : State} {look : String → Datum}

theorem gives_headTarget {t : TypeExpr}
    (h : s.lookup scope t.headLookup = .ok (look t.headLookup)) :
    Gives scope s t.headTarget (t.headDatum look) := by
  unfold headTarget headDatum
  unfold headLookup at h
  cases hq : t.qualifier? with
  | none =>
    rw [hq] at h
    exact Gives.name h
  | some module =>
    rw [hq] at h
    exact (Gives.name h).attr _

mutual

theorem gives_toTarget : (t : TypeExpr) → (∀ x ∈ t.lookups, s.lookup scope x = .ok (look x)) →
    Gives scope s t.toTarget (t.datum look)
  | mk name kind [], h => by
    rw [toTarget_leaf, datum]
    exact gives_headTarget (h _ List.mem_cons_self)
  | mk name kind (arg :: rest), h => by
    rw [toTarget_cons, datum]
    have hhead := gives_headTarget (h _ List.mem_cons_self)
    exact hhead.subscript (gives_toTargets (arg :: rest) fun x hx => h x (List.mem_cons_of_mem _ hx))

theorem gives_toTargets :
    (ts : List TypeExpr) → (∀ x ∈ lookupsAll ts, s.lookup scope x = .ok (look x)) →
    List.Forall₂ (Gives scope s) (toTargets ts) (data look ts)
  | [], _ => .nil
  | t :: rest, h =>
    .cons (gives_toTarget t fun x hx => h x (List.mem_append_left _ hx))
      (gives_toTargets rest fun x hx => h x (List.mem_append_right _ hx))

end

end

end TypeExpr

/-- A value for each parameter of a method, by its name in the plan. -/
structure Assignment where
  path : String → String
  query : String → Option String
  body : Datum

namespace Assignment

def queryDatum (a : Assignment) (p : PlannedParameter) : Datum :=
  match a.query p.name with
  | some v => .text v
  | none => .none

def locals (a : Assignment) (plan : Plan) : List (String × Datum) :=
  ("self", .client) :: plan.pathParameters.map (fun p => (p.name, .text (a.path p.name)))
    ++ plan.queryParameters.map (fun p => (p.name, a.queryDatum p))
    ++ plan.body.toList.map fun p => (p.name, a.body)

def start (a : Assignment) (plan : Plan) (lists : List (List Datum)) : State :=
  { locals := a.locals plan, lists }

def pathValue? (a : Assignment) (plan : Plan) (name : String) : Option String :=
  if name ∈ plan.pathParameters.map (·.name) then some (a.path name) else none

def pathText (a : Assignment) (plan : Plan) : String :=
  PathTemplate.fill (a.pathValue? plan) plan.pathTemplate

def fragment (a : Assignment) (p : PlannedParameter) : Option String :=
  (a.query p.name).map fun v => p.sourceName ++ "=" ++ v

def fragments (a : Assignment) (plan : Plan) : List String :=
  plan.queryParameters.filterMap a.fragment

def queryText (a : Assignment) (plan : Plan) : String :=
  if plan.queryParameters.all fun p => (a.query p.name).isNone then ""
  else "?" ++ "&".intercalate (a.fragments plan)

def sight (a : Assignment) (plan : Plan) (lists : List (List Datum)) (name : String) : Datum :=
  if name = "self" then .client
  else if name = "_path" then .text (a.pathText plan ++ a.queryText plan)
  else if name = "_query" ∧ plan.queryParameters ≠ [] then .list lists.length
  else .global name

def request (a : Assignment) (plan : Plan) (lists : List (List Datum)) : Call :=
  { helper := if plan.returnType.isSome then "_send_request" else "_send_request_no_content"
    args :=
      [.text (a.pathText plan ++ a.queryText plan), .text plan.httpMethod]
        ++ (plan.returnType.map (TypeExpr.datum (a.sight plan lists))).toList
        ++ (plan.body.map fun _ => a.body).toList
    keywords := [] }

structure BoundIn (a : Assignment) (plan : Plan) (locals : List (String × Datum)) : Prop where
  client : locals.lookup "self" = some .client
  path : ∀ p ∈ plan.pathParameters, locals.lookup p.name = some (.text (a.path p.name))
  query : ∀ p ∈ plan.queryParameters, locals.lookup p.name = some (a.queryDatum p)
  body : ∀ p ∈ plan.body, locals.lookup p.name = some a.body

theorem lookup_of_nodup {locals : List (String × Datum)} {name : String} {d : Datum}
    (hnodup : (locals.map (·.1)).Nodup) (h : (name, d) ∈ locals) :
    locals.lookup name = some d := by
  obtain ⟨before, after, rfl⟩ := List.append_of_mem h
  refine List.lookup_eq_some_iff.2 ⟨before, after, rfl, fun b hb => ?_⟩
  rw [List.map_append, List.map_cons, List.nodup_append] at hnodup
  have hne := hnodup.2.2 b.1 (List.mem_map_of_mem hb) name List.mem_cons_self
  exact bne_iff_ne.2 hne.symm

theorem map_fst_locals (a : Assignment) (plan : Plan) :
    (a.locals plan).map (·.1) = "self" :: plan.parameters.map (·.name) := by
  simp [locals, Plan.parameters, Function.comp_def]

theorem nodup_locals (a : Assignment) {plan : Plan} (hsafe : plan.Safe) :
    ((a.locals plan).map (·.1)).Nodup := by
  rw [map_fst_locals]
  exact hsafe.nodup_self

theorem boundIn_locals (a : Assignment) {plan : Plan} (hsafe : plan.Safe) :
    a.BoundIn plan (a.locals plan) := by
  have hnodup := a.nodup_locals hsafe
  refine ⟨rfl, fun p hp => ?_, fun p hp => ?_, fun p hp => ?_⟩
  · apply lookup_of_nodup hnodup
    simp only [locals, List.mem_cons, List.mem_append, List.mem_map]
    exact .inl (.inl (.inr ⟨p, hp, rfl⟩))
  · apply lookup_of_nodup hnodup
    simp only [locals, List.mem_cons, List.mem_append, List.mem_map]
    exact .inl (.inr ⟨p, hp, rfl⟩)
  · apply lookup_of_nodup hnodup
    simp only [locals, List.mem_append, List.mem_map]
    exact .inr ⟨p, Option.mem_toList.2 hp, rfl⟩

theorem BoundIn.bind {a : Assignment} {plan : Plan} {locals : List (String × Datum)}
    (h : a.BoundIn plan locals) (hsafe : plan.Safe) (name : String)
    (hname : name ∈ ["_path", "_query"]) (d : Datum) : a.BoundIn plan ((name, d) :: locals) := by
  have hskip : ∀ x, x ≠ name → ((name, d) :: locals).lookup x = locals.lookup x := by
    intro x hx
    rw [List.lookup_cons, beq_false_of_ne hx]
  have hparameter : ∀ p ∈ plan.parameters, p.name ≠ name := by
    rintro p hp rfl
    exact hsafe.not_local p hp (List.mem_cons_of_mem _ hname)
  refine ⟨?_, fun p hp => ?_, fun p hp => ?_, fun p hp => ?_⟩
  · rw [hskip _ (by rintro rfl; simp at hname)]
    exact h.client
  · rw [hskip _ (hparameter p (by simp [Plan.parameters, hp]))]
    exact h.path p hp
  · rw [hskip _ (hparameter p (by simp [Plan.parameters, hp]))]
    exact h.query p hp
  · rw [hskip _ (hparameter p (by simp [Plan.parameters, Option.mem_toList.2 hp]))]
    exact h.body p hp

theorem fragments_eq_nil_iff (a : Assignment) (plan : Plan) :
    a.fragments plan = [] ↔ plan.queryParameters.all fun p => (a.query p.name).isNone := by
  simp [fragments, fragment]

theorem queryText_eq (a : Assignment) (plan : Plan) :
    a.queryText plan =
      if a.fragments plan = [] then "" else "?" ++ "&".intercalate (a.fragments plan) := by
  rw [queryText]
  simp only [fragments_eq_nil_iff]

def ready (a : Assignment) (plan : Plan) (lists : List (List Datum)) : State :=
  let path := Datum.text (a.pathText plan ++ a.queryText plan)
  if plan.queryParameters = [] then { locals := ("_path", path) :: a.locals plan, lists }
  else
    { locals := ("_path", path) :: ("_query", .list lists.length) :: a.locals plan
      lists := lists ++ [(a.fragments plan).map .text] }

theorem boundIn_ready (a : Assignment) {plan : Plan} (hsafe : plan.Safe)
    (lists : List (List Datum)) : a.BoundIn plan (a.ready plan lists).locals := by
  have hbound := a.boundIn_locals hsafe
  unfold ready
  split
  · exact hbound.bind hsafe "_path" (by simp) _
  · exact (hbound.bind hsafe "_query" (by simp) _).bind hsafe "_path" (by simp) _

theorem calls_ready (a : Assignment) (plan : Plan) (lists : List (List Datum)) :
    (a.ready plan lists).calls = [] := by
  unfold ready
  split <;> rfl

theorem take_lists_ready (a : Assignment) (plan : Plan) (lists : List (List Datum)) :
    (a.ready plan lists).lists.take lists.length = lists := by
  unfold ready
  split
  · exact List.take_length
  · exact List.take_left

end Assignment

namespace Render

section

variable {scope : List String} {s : State} {a : Assignment} {plan : Plan}

theorem format_merge (pending : String) (parts : List FormatPart) :
    s.format scope (FormatPart.merge pending parts) =
      (s.format scope parts).map (pending ++ ·) := by
  induction parts generalizing pending with
  | nil =>
    rw [FormatPart.merge]
    split
    next h => rw [h]; rfl
    next => exact format_text rfl
  | cons part rest ih =>
    cases part with
    | text t =>
      rw [FormatPart.merge, ih, State.format]
      cases s.format scope rest with
      | error f => rfl
      | ok r => simp [Except.map, bind, Except.bind, pure, Except.pure, String.append_assoc]
    | hole name =>
      have hpending : ∀ tail, s.format scope
          ((if pending = "" then [] else [.text pending]) ++ tail) =
            (s.format scope tail).map (pending ++ ·) := by
        intro tail
        split
        next h => cases ht : s.format scope tail <;> simp [h, ht, Except.map]
        next =>
          rw [List.singleton_append, State.format]
          cases s.format scope tail <;> rfl
      rw [FormatPart.merge, hpending, State.format, State.format, ih]
      congr 2
      funext d
      congr 1
      funext written
      cases s.format scope rest <;> simp [Except.map]

theorem gives_concat {parts : List FormatPart} {t : String} (h : s.format scope parts = .ok t) :
    Gives scope s (concat parts) (.text t) := by
  have hmerge : s.format scope (FormatPart.merge "" parts) = .ok t := by
    rw [format_merge, h]
    simp [Except.map]
  unfold concat formattedPath
  split
  next hparts =>
    rw [hparts] at hmerge
    cases hmerge
    exact Gives.constant (.text "")
  next literal hparts =>
    rw [hparts] at hmerge
    have ht : literal ++ "" = t := Except.ok.inj hmerge
    rw [String.append_empty] at ht
    exact ht ▸ Gives.constant (.text literal)
  next => exact Gives.formatted hmerge

theorem gives_pathExpr
    (h : ∀ p ∈ plan.pathParameters, s.locals.lookup p.name = some (.text (a.path p.name))) :
    Gives scope s (pathExpr plan) (.text (a.pathText plan)) := by
  rw [pathExpr_eq_pathOf]
  apply gives_concat
  rw [Assignment.pathText, PathTemplate.fill]
  induction PathTemplate.split plan.pathTemplate with
  | nil => rfl
  | cons piece rest ih =>
    obtain ⟨literal, placeholder?⟩ := piece
    rw [List.map_cons, String.join_cons, List.flatMap_cons]
    cases placeholder? with
    | none => exact format_text ih
    | some name =>
      rw [PathTemplate.Piece.fill, String.append_assoc]
      apply format_text
      by_cases hknown : name ∈ plan.pathParameters.map (·.name)
      · obtain ⟨p, hp, rfl⟩ := List.mem_map.1 hknown
        have hhole := format_hole (lookup_of_bound (h p hp)) ih
        simpa [knownPart, Assignment.pathValue?, hknown] using hhole
      · have htext := format_text (t := "\x7b" ++ name ++ "\x7d") ih
        simpa [knownPart, braced, Assignment.pathValue?, hknown] using htext

theorem gives_text (t : String) : Gives scope s (text t) (.text t) := Gives.constant (.text t)

theorem exec_queryGuard {p : PlannedParameter} {place : Nat} {items : List Datum}
    (hlist : s.locals.lookup "_query" = some (.list place))
    (hitems : s.lists[place]? = some items)
    (hp : s.locals.lookup p.name = some (a.queryDatum p)) :
    exec scope (queryGuard p) s =
      .ok (.none, s.replace place (items ++ (a.fragment p).toList.map .text)) := by
  have hname : s.lookup scope p.name = .ok (a.queryDatum p) := lookup_of_bound hp
  rw [queryGuard, exec_ifThen (Gives.name hname).isNotNone]
  cases hvalue : a.query p.name with
  | none =>
    have hsame : s.replace place items = s := by
      obtain ⟨hlt, rfl⟩ := List.getElem?_eq_some_iff.1 hitems
      rw [State.replace, List.set_getElem_self]
    simp [Assignment.queryDatum, Assignment.fragment, hvalue, Datum.isNone, hsame]
  | some v =>
    simp only [Assignment.queryDatum, hvalue] at hname ⊢
    have hfragment : s.format scope [.text (p.sourceName ++ "="), .hole p.name] =
        .ok (p.sourceName ++ "=" ++ (v ++ "")) := format_text (format_hole hname rfl)
    have happend : Gives scope s (.attr queryVariable "append") (.attribute (.list place) "append") :=
      (Gives.name (lookup_of_bound hlist)).attr "append"
    have hcall := eval_call happend (.cons (Gives.formatted hfragment) .nil)
    rw [call_append hitems] at hcall
    have htrue : (!(Datum.text v).isNone) = true := rfl
    rw [if_pos htrue, execAll_cons (exec_expr hcall), execAll_nil]
    simp [Assignment.fragment, hvalue]

theorem execAll_queryGuards {ps : List PlannedParameter} {place : Nat} {items : List Datum}
    (hlist : s.locals.lookup "_query" = some (.list place))
    (hitems : s.lists[place]? = some items)
    (hps : ∀ p ∈ ps, s.locals.lookup p.name = some (a.queryDatum p)) :
    execAll scope (ps.map queryGuard) s =
      .ok (.none, s.replace place (items ++ (ps.filterMap a.fragment).map .text)) := by
  induction ps generalizing s items with
  | nil =>
    obtain ⟨hlt, rfl⟩ := List.getElem?_eq_some_iff.1 hitems
    rw [List.map_nil, execAll_nil]
    simp [State.replace]
  | cons p rest ih =>
    obtain ⟨hp, hrest⟩ := List.forall_mem_cons.1 hps
    obtain ⟨hlt, -⟩ := List.getElem?_eq_some_iff.1 hitems
    have hitems' : (s.replace place (items ++ (a.fragment p).toList.map .text)).lists[place]? =
        some (items ++ (a.fragment p).toList.map .text) := by
      simp [State.replace, hlt]
    rw [List.map_cons, execAll_cons (exec_queryGuard hlist hitems hp),
      ih (s := s.replace place _) hlist hitems' hrest]
    cases hfragment : a.fragment p <;> simp [State.replace, hfragment]

theorem gives_querySuffix {place : Nat} {items : List String}
    (hlist : s.locals.lookup "_query" = some (.list place))
    (hitems : s.lists[place]? = some (items.map .text)) :
    Gives scope s querySuffix
      (.text (if items = [] then "" else "?" ++ "&".intercalate items)) := by
  have hquery : Gives scope s queryVariable (.list place) := Gives.name (lookup_of_bound hlist)
  have htruth : s.truth (.list place) = .ok (decide (items ≠ [])) := by
    cases items <;> simp [State.truth, State.items, hitems, Except.map]
  apply Gives.conditional hquery htruth
  by_cases h : items = []
  · simpa [h] using gives_text ""
  · have hjoin := eval_call ((gives_text "&").attr "join") (.cons hquery .nil)
    rw [call_join "&" hitems] at hjoin
    simpa [h] using (gives_text "?").add hjoin

theorem exec_emptyQuery :
    exec scope emptyQuery s =
      .ok (.none, { s with lists := s.lists ++ [[]] }.bind "_query" (.list s.lists.length)) := by
  rw [emptyQuery, exec, eval, evalAll]
  rfl

theorem exec_pathAssignment {e : Expr} {d : Datum} (h : Gives scope s e d) :
    exec scope (.assign pathVariable e) s = .ok (.none, s.bind "_path" d) :=
  exec_assign h

theorem execAll_pathStatements (hsafe : plan.Safe) (lists : List (List Datum)) :
    execAll scope (pathStatements plan) (a.start plan lists) =
      .ok (.none, a.ready plan lists) := by
  have hbound := a.boundIn_locals hsafe
  unfold pathStatements Assignment.ready
  by_cases hempty : plan.queryParameters = []
  · have hpath : Gives scope (a.start plan lists) (pathExpr plan) (.text (a.pathText plan)) :=
      gives_pathExpr hbound.path
    rw [if_pos (by simp [hempty]), if_pos hempty, execAll_cons (exec_pathAssignment hpath),
      execAll_nil]
    simp [Assignment.queryText, hempty, State.bind, Assignment.start]
  · have hbound' := hbound.bind hsafe "_query" (by simp) (.list lists.length)
    -- the list of fragments is the newest one, first empty and then filled by the guards
    let opened : State :=
      { locals := ("_query", .list lists.length) :: a.locals plan, lists := lists ++ [[]] }
    let filled : State :=
      { locals := ("_query", .list lists.length) :: a.locals plan
        lists := lists ++ [(a.fragments plan).map .text] }
    have hopen : exec scope emptyQuery (a.start plan lists) = .ok (.none, opened) :=
      exec_emptyQuery
    have hguards : execAll scope (plan.queryParameters.map queryGuard) opened =
        .ok (.none, filled) := by
      rw [execAll_queryGuards (s := opened) rfl List.getElem?_concat_length hbound'.query]
      simp [opened, filled, State.replace, Assignment.fragments]
    have hpath : Gives scope filled (pathExpr plan) (.text (a.pathText plan)) :=
      gives_pathExpr hbound'.path
    have hsuffix : Gives scope filled querySuffix (.text (a.queryText plan)) := by
      rw [a.queryText_eq]
      exact gives_querySuffix rfl List.getElem?_concat_length
    rw [if_neg (by simpa using hempty), if_neg hempty, List.cons_append, execAll_cons hopen,
      execAll_append hguards, execAll_cons (exec_pathAssignment (hpath.add hsuffix)), execAll_nil]
    rfl

/-! The names that are local to a method. -/

theorem map_name_arguments_signature (plan : Plan) :
    (signature plan).arguments.map (·.name) = "self" :: plan.parameters.map (·.name) := by
  unfold signature
  cases hbody : plan.body with
  | none => simp [Signature.arguments, Plan.parameters, hbody, argument, self, Function.comp_def]
  | some body =>
    by_cases hquery : plan.queryParameters = []
    · simp [Signature.arguments, Plan.parameters, hbody, hquery, argument, self, Function.comp_def]
    · simp [Signature.arguments, Plan.parameters, hbody, hquery, argument, self, Function.comp_def]

theorem targetsAll_append (xs ys : List Stmt) :
    targetsAll (xs ++ ys) = targetsAll xs ++ targetsAll ys := by
  induction xs with
  | nil => rfl
  | cons st rest ih => rw [List.cons_append, targetsAll, targetsAll, ih, List.append_assoc]

theorem targetsAll_queryGuards (ps : List PlannedParameter) :
    targetsAll (ps.map queryGuard) = [] := by
  induction ps with
  | nil => rfl
  | cons p rest ih =>
    rw [List.map_cons, targetsAll, ih]
    rfl

theorem body_method (plan : Plan) :
    (method plan).body = pathStatements plan ++ [dispatchStatement plan] := rfl

theorem targetsAll_body_method (plan : Plan) :
    targetsAll (method plan).body =
      (if plan.queryParameters = [] then [] else ["_query"]) ++ ["_path"] := by
  have hdispatch : targets (dispatchStatement plan) = [] := by
    unfold dispatchStatement
    split <;> rfl
  rw [body_method, targetsAll_append, targetsAll, hdispatch, pathStatements]
  by_cases hempty : plan.queryParameters = []
  · simp [hempty, targetsAll, targets, pathVariable, Plan.pathVariable]
  · simp [hempty, targetsAll, targetsAll_append, targetsAll_queryGuards, targets, emptyQuery,
      pathVariable, Plan.pathVariable, Plan.queryVariable]

theorem mem_scope_method {name : String} :
    name ∈ Execution.scope (method plan) ↔
      name = "self" ∨ name ∈ plan.parameters.map (·.name) ∨
        (name = "_query" ∧ plan.queryParameters ≠ []) ∨ name = "_path" := by
  rw [Execution.scope, targetsAll_body_method]
  change name ∈ (signature plan).arguments.map (·.name) ++ _ ↔ _
  rw [map_name_arguments_signature]
  by_cases hempty : plan.queryParameters = [] <;> simp [hempty]

theorem lookup_locals_eq_none {name : String} (hself : name ≠ "self")
    (hname : name ∉ plan.parameters.map (·.name)) : (a.locals plan).lookup name = .none := by
  rw [List.lookup_eq_none_iff]
  intro b hb
  have hkey : b.1 ∈ (a.locals plan).map (·.1) := List.mem_map_of_mem hb
  rw [Assignment.map_fst_locals] at hkey
  rw [bne_iff_ne]
  rintro rfl
  rcases List.mem_cons.1 hkey with h | h
  · exact hself h
  · exact hname h

theorem lookup_ready {name : String} (lists : List (List Datum))
    (hname : name ∉ plan.parameters.map (·.name)) :
    (a.ready plan lists).lookup (Execution.scope (method plan)) name =
      .ok (a.sight plan lists name) := by
  unfold Assignment.sight
  by_cases hself : name = "self"
  · subst hself
    apply lookup_of_bound
    unfold Assignment.ready
    split <;> rfl
  rw [if_neg hself]
  by_cases hpath : name = "_path"
  · subst hpath
    apply lookup_of_bound
    unfold Assignment.ready
    split <;> rfl
  rw [if_neg hpath]
  have hlocals := lookup_locals_eq_none (a := a) hself hname
  by_cases hquery : name = "_query" ∧ plan.queryParameters ≠ []
  · rw [if_pos hquery]
    obtain ⟨rfl, hne⟩ := hquery
    apply lookup_of_bound
    rw [Assignment.ready, if_neg hne]
    rfl
  · rw [if_neg hquery]
    apply lookup_global
    · unfold Assignment.ready
      split
      next =>
        rw [List.lookup_cons, beq_false_of_ne hpath]
        exact hlocals
      next hne =>
        have hquery' : name ≠ "_query" := fun h => hquery ⟨h, hne⟩
        rw [List.lookup_cons, beq_false_of_ne hpath, List.lookup_cons, beq_false_of_ne hquery']
        exact hlocals
    · rw [mem_scope_method]
      rintro (h | h | h | h)
      · exact hself h
      · exact hname h
      · exact hquery h
      · exact hpath h

theorem eval_dispatch (hsafe : plan.Safe) (lists : List (List Datum)) :
    eval (Execution.scope (method plan)) (dispatch plan) (a.ready plan lists) =
      .ok (.reply 0, (a.ready plan lists).record (a.request plan lists)) := by
  have hlocal : ∀ x ∈ ["self", "_path", "_query"], x ∉ plan.parameters.map (·.name) := by
    intro x hx hmem
    obtain ⟨p, hp, rfl⟩ := List.mem_map.1 hmem
    exact hsafe.not_local p hp hx
  have hself : Gives (Execution.scope (method plan)) (a.ready plan lists) (.name "self") .client :=
    Gives.name (lookup_ready lists (hlocal "self" (by simp)))
  have hpath : Gives (Execution.scope (method plan)) (a.ready plan lists) pathVariable
      (.text (a.pathText plan ++ a.queryText plan)) :=
    Gives.name (lookup_ready lists (hlocal "_path" (by simp)))
  have htype : List.Forall₂ (Gives (Execution.scope (method plan)) (a.ready plan lists))
      (plan.returnType.map TypeExpr.toTarget).toList
      (plan.returnType.map (TypeExpr.datum (a.sight plan lists))).toList := by
    cases ht : plan.returnType with
    | none => exact .nil
    | some t =>
      -- no parameter hides a name of the return type
      refine .cons (TypeExpr.gives_toTarget t fun x hx => lookup_ready lists fun hmem => ?_) .nil
      obtain ⟨p, hp, rfl⟩ := List.mem_map.1 hmem
      exact hsafe.not_lookup p hp t ht hx
  have hbody : List.Forall₂ (Gives (Execution.scope (method plan)) (a.ready plan lists))
      (plan.body.map fun body => .name body.name).toList (plan.body.map fun _ => a.body).toList := by
    cases hb : plan.body with
    | none => exact .nil
    | some p => exact .cons (Gives.name (lookup_of_bound ((a.boundIn_ready hsafe lists).body p hb))) .nil
  have hcall := eval_call (hself.attr (a.request plan lists).helper)
    (List.rel_append (List.rel_append (.cons hpath (.cons (gives_text plan.httpMethod) .nil)) htype)
      hbody)
  rw [call_client, Assignment.calls_ready] at hcall
  exact eval_await hcall

theorem run_method (hsafe : plan.Safe) (lists : List (List Datum)) :
    run (method plan) (a.start plan lists) =
      .ok (if plan.returnType.isSome then .reply 0 else .none,
        (a.ready plan lists).record (a.request plan lists)) := by
  have hdispatch := eval_dispatch (a := a) hsafe lists
  have hbody : execAll (Execution.scope (method plan)) (method plan).body (a.start plan lists) =
      .ok (if plan.returnType.isSome then some (.reply 0) else .none,
        (a.ready plan lists).record (a.request plan lists)) := by
    rw [body_method, execAll_append (execAll_pathStatements hsafe lists), dispatchStatement]
    split
    next =>
      rw [execAll, exec_ret hdispatch]
      rfl
    next => rw [execAll_cons (exec_expr hdispatch), execAll_nil]
  rw [run, hbody]
  cases plan.returnType <;> rfl

end

end Render

namespace Plan

/-- For all values of the parameters, the method of an endpoint calls a helper once. The path is
the template with its parameters filled in and the query that has values, and what a type names is
what the module binds, except for the method's own locals. -/
theorem run_method_ofEndpoint (endpoint : Endpoint) (a : Assignment) (lists : List (List Datum)) :
    ∃ final,
      run (Render.method (ofEndpoint endpoint)) (a.start (ofEndpoint endpoint) lists) =
          .ok (if (ofEndpoint endpoint).returnType.isSome then .reply 0 else .none, final) ∧
        final.calls = [a.request (ofEndpoint endpoint) lists] ∧
        final.lists.take lists.length = lists ∧
        ∀ t, (ofEndpoint endpoint).returnType = some t →
          (∀ x ∈ t.lookups, x ∉ ["self", "_path", "_query"]) →
            t.datum (a.sight (ofEndpoint endpoint) lists) = t.datum .global := by
  refine ⟨_, Render.run_method (safe_ofEndpoint endpoint) lists, ?_, ?_, fun t _ hfree => ?_⟩
  · simp [State.record, Assignment.calls_ready]
  · exact a.take_lists_ready _ lists
  · apply TypeExpr.datum_congr
    intro x hx
    have hx := hfree x hx
    simp only [List.mem_cons, List.not_mem_nil, or_false, not_or] at hx
    simp [Assignment.sight, hx]

end Plan

end TypedClient
