import TypedClient.Proofs.Outcome
import TypedClient.Proofs.Request
import TypedClient.Target.Binding

namespace TypedClient

open Target Target.Execution

theorem Target.Signature.pairwise_positionalDefaults (s : Signature) :
    s.positionalDefaults.Pairwise fun before after => before.isSome → after.isSome := by
  rw [Signature.positionalDefaults, List.pairwise_append]
  refine ⟨?_, ?_, ?_⟩
  · simp [List.pairwise_replicate]
  · rw [List.pairwise_map]
    exact List.pairwise_of_forall fun _ _ _ => rfl
  · intro before hbefore after _ h
    rw [List.eq_of_mem_replicate hbefore] at h
    cases h

namespace Target.Execution

variable {names : List String} {bound bound' keywords : Bound}

theorem bindKeywords_eq_ok_iff :
    bindKeywords names bound keywords = .ok bound' ↔
      (∀ b ∈ keywords, b.1 ∈ names) ∧ (keywords.map (·.1)).Nodup ∧
        (∀ b ∈ keywords, b.1 ∉ bound.map (·.1)) ∧ bound' = bound ++ keywords := by
  induction keywords generalizing bound with
  | nil => simp [bindKeywords, eq_comm]
  | cons b rest ih =>
    obtain ⟨name, d⟩ := b
    simp only [bindKeywords, List.forall_mem_cons, List.map_cons, List.nodup_cons]
    split
    next hunknown => simp [hunknown]
    next hknown =>
      split
      next htaken => simp [htaken]
      next hfree =>
        have hname : (∀ b ∈ rest, b.1 ∉ (bound ++ [(name, d)]).map (·.1)) ↔
            name ∉ rest.map (·.1) ∧ ∀ b ∈ rest, b.1 ∉ bound.map (·.1) := by
          simp only [List.map_append, List.mem_append, not_or]
          constructor
          · intro h
            refine ⟨fun hmem => ?_, fun b hb => (h b hb).1⟩
            obtain ⟨b, hb, hb'⟩ := List.mem_map.1 hmem
            exact (h b hb).2 (List.mem_singleton.2 hb')
          · rintro ⟨hname, hrest⟩ b hb
            refine ⟨hrest b hb, fun hmem => hname ?_⟩
            obtain rfl : b.1 = name := List.mem_singleton.1 hmem
            exact List.mem_map_of_mem hb
        rw [ih, hname, List.append_assoc, List.singleton_append]
        grind

theorem lookup_eq_none_iff {name : String} :
    bound.lookup name = none ↔ name ∉ bound.map (·.1) := by
  simp only [List.lookup_eq_none_iff, List.mem_map, not_exists, not_and, bne_iff_ne]
  exact ⟨fun h b hb hname => h b hb hname.symm, fun h b hb hname => h b hb hname.symm⟩

theorem value?_eq_none_iff {slot : Slot} :
    slot.value? bound = none ↔ slot.default = none ∧ slot.name ∉ bound.map (·.1) := by
  rw [Slot.value?, Option.or_eq_none_iff, lookup_eq_none_iff, and_comm]

theorem checkMissing_eq_ok_iff {slots : List Slot} :
    checkMissing bound slots = .ok () ↔
      ∀ slot ∈ slots, slot.default = none → slot.name ∈ bound.map (·.1) := by
  have hmissing : (slots.filter fun slot => (slot.value? bound).isNone) = [] ↔
      ∀ slot ∈ slots, slot.default = none → slot.name ∈ bound.map (·.1) := by
    simp only [List.filter_eq_nil_iff, Option.isNone_iff_eq_none, value?_eq_none_iff, not_and,
      not_not]
  rw [← hmissing, checkMissing]
  split
  next h => simp [h]
  next h => simpa using h

namespace Slots

variable {slots : Slots} {args : List Datum}

def given (slots : Slots) (args : List Datum) (keywords : Bound) : Bound :=
  slots.bindPositional args ++ keywords

def locals (slots : Slots) (bound : Bound) : Bound :=
  slots.all.filterMap fun slot => (slot.value? bound).map (slot.name, ·)

/-- A call has room for its arguments, names parameters only, gives none twice and leaves out none
that has no default. -/
structure Accepts (slots : Slots) (args : List Datum) (keywords : Bound) : Prop where
  room : args.length ≤ slots.positional.length
  known : ∀ b ∈ keywords, b.1 ∈ slots.names
  distinct : (keywords.map (·.1)).Nodup
  once : ∀ b ∈ keywords, b.1 ∉ (slots.bindPositional args).map (·.1)
  complete : ∀ slot ∈ slots.all, slot.default = none →
    slot.name ∈ (slots.given args keywords).map (·.1)

theorem bind_eq_ok_iff :
    slots.bind args keywords = .ok bound ↔
      slots.Accepts args keywords ∧ bound = slots.locals (slots.given args keywords) := by
  unfold bind
  rw [Outcome.bind_eq_ok]
  constructor
  · rintro ⟨found, hfound, h⟩
    obtain ⟨hknown, hdistinct, honce, rfl⟩ := bindKeywords_eq_ok_iff.1 hfound
    split at h
    next => cases h
    next hroom =>
      obtain ⟨⟨⟩, hpositional, h⟩ := Outcome.bind_eq_ok.1 h
      obtain ⟨⟨⟩, hkeywordOnly, h⟩ := Outcome.bind_eq_ok.1 h
      refine ⟨⟨Nat.le_of_not_lt hroom, hknown, hdistinct, honce, fun slot hslot => ?_⟩,
        (Except.ok.inj h).symm⟩
      rcases List.mem_append.1 hslot with hslot | hslot
      · exact checkMissing_eq_ok_iff.1 hpositional slot hslot
      · exact checkMissing_eq_ok_iff.1 hkeywordOnly slot hslot
  · rintro ⟨haccepts, rfl⟩
    refine ⟨_, bindKeywords_eq_ok_iff.2 ⟨haccepts.known, haccepts.distinct, haccepts.once, rfl⟩, ?_⟩
    have hpositional : checkMissing (slots.given args keywords) slots.positional = .ok () :=
      checkMissing_eq_ok_iff.2 fun slot hslot =>
        haccepts.complete slot (List.mem_append_left _ hslot)
    have hkeywordOnly : checkMissing (slots.given args keywords) slots.keywordOnly = .ok () :=
      checkMissing_eq_ok_iff.2 fun slot hslot =>
        haccepts.complete slot (List.mem_append_right _ hslot)
    rw [← given, if_neg (Nat.not_lt.2 haccepts.room), hpositional, hkeywordOnly]
    rfl

theorem bindPositional_eq {named rest : List Slot} (h : slots.positional = named ++ rest)
    (hlength : named.length = args.length) :
    slots.bindPositional args = (named.map (·.name)).zip args := by
  rw [bindPositional, h, List.map_append]
  conv_lhs => rw [← List.append_nil args]
  rw [List.zip_append (by rw [List.length_map, hlength]), List.zip_nil_right, List.append_nil]

def Takes (bound : Bound) (slot : Slot) (b : String × Datum) : Prop :=
  slot.name = b.1 ∧ (b ∈ bound ∨ slot.default = some b.2)

theorem mem_given_of_takes {all : List Slot} {values : Bound}
    (h : List.Forall₂ (Takes bound) all values) :
    ∀ slot ∈ all, slot.default = none → slot.name ∈ bound.map (·.1) := by
  induction h with
  | nil => exact fun _ hslot => nomatch hslot
  | cons hfirst _ ih =>
    refine List.forall_mem_cons.2 ⟨fun hdefault => ?_, ih⟩
    obtain ⟨hname, hgiven | htaken⟩ := hfirst
    · rw [hname]
      exact List.mem_map_of_mem hgiven
    · rw [hdefault] at htaken
      cases htaken

theorem Takes.value? {slot : Slot} {b : String × Datum} {values : Bound} (h : Takes bound slot b)
    (hb : b ∈ values) (hnodup : (values.map (·.1)).Nodup) (hgiven : ∀ b ∈ bound, b ∈ values) :
    slot.value? bound = some b.2 := by
  obtain ⟨hname, htakes⟩ := h
  rw [Slot.value?, hname]
  cases hlookup : bound.lookup b.1 with
  | none =>
    rcases htakes with hmem | hdefault
    · exact absurd (List.mem_map_of_mem hmem) (lookup_eq_none_iff.1 hlookup)
    · rw [Option.none_or, hdefault]
  | some found =>
    obtain ⟨_, _, rfl, _⟩ := List.lookup_eq_some_iff.1 hlookup
    have hfound := hgiven _ (List.mem_append_right _ List.mem_cons_self)
    rw [Option.some_or, ← Assignment.lookup_of_nodup hnodup hfound]
    exact Assignment.lookup_of_nodup hnodup hb

theorem locals_eq_of_takes {values : Bound} (hnodup : (values.map (·.1)).Nodup)
    (hgiven : ∀ b ∈ bound, b ∈ values) (h : List.Forall₂ (Takes bound) slots.all values) :
    slots.locals bound = values := by
  have hvalue : ∀ slot, ∀ b ∈ values, Takes bound slot b →
      (slot.value? bound).map (slot.name, ·) = some b := by
    intro slot b hb htakes
    rw [htakes.value? hb hnodup hgiven, htakes.1]
    rfl
  rw [locals]
  generalize slots.all = all at h
  clear hnodup hgiven
  induction h with
  | nil => rfl
  | cons hfirst _ ih =>
    rw [List.filterMap_cons, hvalue _ _ List.mem_cons_self hfirst,
      ih fun slot b hb => hvalue slot b (List.mem_cons_of_mem _ hb)]

end Slots

theorem evalDefaults_of_forall₂ {scope : List String} {s : State} {defaults : List (Option Expr)}
    {ds : List (Option Datum)} (h : List.Forall₂ (Option.Rel (Gives scope s)) defaults ds) :
    evalDefaults scope defaults s = .ok (ds, s) := by
  induction h with
  | nil => rfl
  | cons hfirst _ ih =>
    cases hfirst with
    | none =>
      rw [evalDefaults, ih]
      rfl
    | some hfirst =>
      rw [Gives] at hfirst
      rw [evalDefaults, hfirst]
      simp only [bind, Except.bind, ih]
      rfl

section

variable {scope : List String} {s : State}

def slot (default : Option Datum) (argument : Argument) : Slot := ⟨argument.name, default⟩

theorem slotsOf_map (arguments : List Argument) (d : Option Datum) :
    slotsOf arguments (arguments.map fun _ => d) = arguments.map (slot d) := by
  induction arguments with
  | nil => rfl
  | cons argument rest ih =>
    rw [List.map_cons, List.map_cons, ← ih]
    rfl

theorem slotsOf_append (xs ys : List Argument) (d e : Option Datum) :
    slotsOf (xs ++ ys) (xs.map (fun _ => d) ++ ys.map fun _ => e) =
      xs.map (slot d) ++ ys.map (slot e) := by
  rw [slotsOf, List.zipWith_append (by rw [List.length_map]), ← slotsOf, ← slotsOf, slotsOf_map,
    slotsOf_map]

theorem forall₂_map_map {α β γ : Type} {R : β → γ → Prop} {f : α → β} {g : α → γ} {l : List α}
    (h : ∀ x ∈ l, R (f x) (g x)) : List.Forall₂ R (l.map f) (l.map g) := by
  rw [List.forall₂_map_left_iff, List.forall₂_map_right_iff, List.forall₂_same]
  exact h

theorem define_append {e : Expr} {d : Datum} (h : Gives scope s e d)
    (required optional given rest : List Argument) :
    define scope
        { positional := required ++ optional
          defaults := optional.map fun _ => e
          keywordOnly := given ++ rest
          keywordDefaults := given.map (fun _ => some e) ++ rest.map fun _ => none } s =
      .ok (⟨required.map (slot none) ++ optional.map (slot (some d)),
        given.map (slot (some d)) ++ rest.map (slot none)⟩, s) := by
  have hpositional : evalDefaults scope
      (required.map (fun _ => none) ++ optional.map fun _ => some e) s =
        .ok (required.map (fun _ => none) ++ optional.map fun _ => some d, s) :=
    evalDefaults_of_forall₂ (List.rel_append (forall₂_map_map fun _ _ => .none)
      (forall₂_map_map fun _ _ => .some h))
  have hkeywordOnly : evalDefaults scope
      (given.map (fun _ => some e) ++ rest.map fun _ => none) s =
        .ok (given.map (fun _ => some d) ++ rest.map fun _ => none, s) :=
    evalDefaults_of_forall₂ (List.rel_append (forall₂_map_map fun _ _ => .some h)
      (forall₂_map_map fun _ _ => .none))
  have hdefaults : ∀ signature : Signature, signature.positional = required ++ optional →
      signature.defaults = (optional.map fun _ => e) →
      signature.positionalDefaults =
        required.map (fun _ => none) ++ optional.map fun _ => some e := by
    intro signature hpositional hdefaults
    simp [Signature.positionalDefaults, hpositional, hdefaults]
  rw [define, hdefaults _ rfl rfl, hpositional]
  simp only [bind, Except.bind, hkeywordOnly, slotsOf_append]
  rfl

end

end Target.Execution

namespace Plan

variable {plan : Plan}

/-! The signature of a method. -/

def selfSlot : Slot := ⟨"self", none⟩

def requiredSlot (p : PlannedParameter) : Slot := ⟨p.name, none⟩

def optionalSlot (p : PlannedParameter) : Slot := ⟨p.name, some .none⟩

def slots (plan : Plan) : Slots :=
  let positional := selfSlot :: plan.pathParameters.map requiredSlot
  let query := plan.queryParameters.map optionalSlot
  match plan.body with
  | none => ⟨positional ++ query, []⟩
  | some body =>
    if query.isEmpty then ⟨positional ++ [requiredSlot body], []⟩
    else ⟨positional, query ++ [requiredSlot body]⟩

theorem all_slots (plan : Plan) :
    plan.slots.all = selfSlot :: plan.pathParameters.map requiredSlot
      ++ plan.queryParameters.map optionalSlot ++ plan.body.toList.map requiredSlot := by
  unfold slots
  cases plan.body with
  | none => simp [Slots.all]
  | some body => by_cases h : plan.queryParameters = [] <;> simp [Slots.all, h]

theorem prefix_positional_slots (plan : Plan) :
    selfSlot :: plan.pathParameters.map requiredSlot <+: plan.slots.positional := by
  unfold slots
  cases plan.body with
  | none => simp
  | some body => by_cases h : plan.queryParameters = [] <;> simp [h]

theorem names_slots (plan : Plan) : plan.slots.names = "self" :: plan.parameters.map (·.name) := by
  rw [Slots.names, all_slots]
  simp [selfSlot, requiredSlot, optionalSlot, Plan.parameters, Function.comp_def]

theorem define_signature (plan : Plan) (scope : List String) (s : State) :
    define scope (Render.signature plan) s = .ok (plan.slots, s) := by
  have hnone : Gives scope s Render.none .none := Gives.constant .none
  have hself : slot none Render.self = selfSlot := rfl
  have hrequired : slot none ∘ Render.argument = requiredSlot := rfl
  have hoptional : slot (some .none) ∘ Render.argument = optionalSlot := rfl
  have hbody : ∀ p, slot none (Render.argument p) = requiredSlot p := fun _ => rfl
  let positional := Render.self :: plan.pathParameters.map Render.argument
  let query := plan.queryParameters.map Render.argument
  unfold Render.signature slots
  cases plan.body with
  | none =>
    have h := define_append hnone positional query [] []
    simpa [positional, query, hself, hrequired, hoptional] using h
  | some body =>
    by_cases hquery : plan.queryParameters = []
    · have h := define_append hnone (positional ++ [Render.argument body]) [] [] []
      simpa [positional, hquery, hself, hrequired, hbody] using h
    · have h := define_append hnone positional [] query [Render.argument body]
      simpa [positional, query, hquery, hself, hrequired, hoptional, hbody] using h

theorem valid_signature (hsafe : plan.Safe) : (Render.signature plan).Valid := by
  refine ⟨?_, Signature.pairwise_positionalDefaults _, ?_, ?_⟩
  · unfold Render.signature
    cases plan.body with
    | none =>
      rw [List.length_map, List.length_append]
      exact Nat.le_add_left _ _
    | some body => by_cases hquery : plan.queryParameters = [] <;> simp [hquery]
  · unfold Render.signature
    cases plan.body with
    | none => rfl
    | some body => by_cases hquery : plan.queryParameters = [] <;> simp [hquery]
  · rw [Render.map_name_arguments_signature]
    exact hsafe.nodup_self

/-- The values of a call: one for each path parameter, one for each query parameter that is given
and one for the body. -/
structure Choice where
  path : String → Datum
  query : String → Option Datum
  body : Datum

namespace Choice

variable (c : Choice) (plan)

def args : List Datum := .client :: plan.pathParameters.map fun p => c.path p.name

def keywords : Bound :=
  plan.queryParameters.filterMap (fun p => (c.query p.name).map (p.name, ·))
    ++ plan.body.toList.map fun p => (p.name, c.body)

def locals : Bound :=
  ("self", .client) :: plan.pathParameters.map (fun p => (p.name, c.path p.name))
    ++ plan.queryParameters.map (fun p => (p.name, (c.query p.name).getD .none))
    ++ plan.body.toList.map fun p => (p.name, c.body)

def positional : Bound :=
  ("self", .client) :: plan.pathParameters.map fun p => (p.name, c.path p.name)

theorem bindPositional_args : plan.slots.bindPositional (c.args plan) = c.positional plan := by
  obtain ⟨rest, hrest⟩ := prefix_positional_slots plan
  have hlength : (selfSlot :: plan.pathParameters.map requiredSlot).length =
      (c.args plan).length := by
    simp [args]
  rw [Slots.bindPositional_eq hrest.symm hlength]
  simp [args, positional, selfSlot, requiredSlot, List.zip_map']

theorem map_fst_locals : (c.locals plan).map (·.1) = "self" :: plan.parameters.map (·.name) := by
  simp [locals, Plan.parameters, Function.comp_def]

theorem nodup_locals (hsafe : plan.Safe) : ((c.locals plan).map (·.1)).Nodup := by
  rw [map_fst_locals]
  exact hsafe.nodup_self

theorem mem_locals_of_mem {b : String × Datum} (hb : b ∈ c.positional plan ++ c.keywords plan) :
    b ∈ c.locals plan := by
  simp only [positional, keywords, locals, List.mem_append, List.mem_filterMap] at hb ⊢
  rcases hb with hpositional | ⟨p, hp, hgiven⟩ | hbody
  · exact .inl (.inl hpositional)
  · obtain ⟨d, hd, rfl⟩ := Option.map_eq_some_iff.1 hgiven
    exact .inl (.inr (List.mem_map.2 ⟨p, hp, by rw [hd, Option.getD_some]⟩))
  · exact .inr hbody

theorem sublist_given : ((c.positional plan ++ c.keywords plan).map (·.1)).Sublist
    ((c.locals plan).map (·.1)) := by
  have hquery : ((plan.queryParameters.filterMap fun p =>
      (c.query p.name).map (p.name, ·)).map (·.1)).Sublist
        (plan.queryParameters.map (·.name)) := by
    induction plan.queryParameters with
    | nil => exact .slnil
    | cons p rest ih =>
      cases hp : c.query p.name with
      | none => simpa [hp] using ih.cons p.name
      | some d => simpa [hp] using ih.cons_cons p.name
  simpa [positional, keywords, locals, Function.comp_def] using hquery

variable {c plan} {keywords : Bound}

theorem given_args (plan : Plan) (keywords : Bound) :
    plan.slots.given (c.args plan) keywords = c.positional plan ++ keywords := by
  rw [Slots.given, bindPositional_args]

theorem forall₂_takes (hperm : keywords.Perm (c.keywords plan)) :
    List.Forall₂ (Slots.Takes (c.positional plan ++ keywords)) plan.slots.all (c.locals plan) := by
  have hkeyword : ∀ b ∈ c.keywords plan, b ∈ c.positional plan ++ keywords :=
    fun b hb => List.mem_append_right _ (hperm.mem_iff.2 hb)
  have hself : ("self", .client) ∈ c.positional plan ++ keywords :=
    List.mem_append_left _ List.mem_cons_self
  have hpath : ∀ p ∈ plan.pathParameters,
      (p.name, c.path p.name) ∈ c.positional plan ++ keywords := fun p hp =>
    List.mem_append_left _ (List.mem_cons_of_mem _ (List.mem_map_of_mem hp))
  have hquery : ∀ p ∈ plan.queryParameters, Slots.Takes (c.positional plan ++ keywords)
      (optionalSlot p) (p.name, (c.query p.name).getD .none) := by
    intro p hp
    cases hgiven : c.query p.name with
    | none => exact ⟨rfl, .inr rfl⟩
    | some d =>
      have hmem : (p.name, d) ∈ c.keywords plan :=
        List.mem_append_left _ (List.mem_filterMap.2 ⟨p, hp, by rw [hgiven]; rfl⟩)
      exact ⟨rfl, .inl (hkeyword _ hmem)⟩
  have hbody : ∀ p ∈ plan.body.toList, (p.name, c.body) ∈ c.positional plan ++ keywords :=
    fun p hp => hkeyword _ (List.mem_append_right _ (List.mem_map_of_mem hp))
  rw [all_slots, locals]
  apply List.rel_append
  · apply List.rel_append
    · exact .cons ⟨rfl, .inl hself⟩ (forall₂_map_map fun p hp => ⟨rfl, .inl (hpath p hp)⟩)
    · exact forall₂_map_map hquery
  · exact forall₂_map_map fun p hp => ⟨rfl, .inl (hbody p hp)⟩

theorem accepts_args (hsafe : plan.Safe) (hperm : keywords.Perm (c.keywords plan)) :
    plan.slots.Accepts (c.args plan) keywords := by
  have hgiven : (c.positional plan ++ keywords).Perm (c.positional plan ++ c.keywords plan) :=
    hperm.append_left _
  have hnodup : ((c.positional plan ++ keywords).map (·.1)).Nodup :=
    (hgiven.map _).nodup_iff.2 ((c.nodup_locals plan hsafe).sublist (c.sublist_given plan))
  rw [List.map_append, List.nodup_append] at hnodup
  refine ⟨?_, fun b hb => ?_, hnodup.2.1, fun b hb hmem => ?_, ?_⟩
  · simpa [args, selfSlot] using (prefix_positional_slots plan).length_le
  · rw [names_slots, ← map_fst_locals]
    have hmem := hgiven.subset (List.mem_append_right _ hb)
    exact List.mem_map_of_mem (c.mem_locals_of_mem plan hmem)
  · rw [bindPositional_args] at hmem
    exact hnodup.2.2 b.1 hmem b.1 (List.mem_map_of_mem hb) rfl
  · rw [given_args]
    exact Slots.mem_given_of_takes (forall₂_takes hperm)

theorem bind_args (hsafe : plan.Safe) (hperm : keywords.Perm (c.keywords plan)) :
    plan.slots.bind (c.args plan) keywords = .ok (c.locals plan) := by
  have hgiven : (c.positional plan ++ keywords).Perm (c.positional plan ++ c.keywords plan) :=
    hperm.append_left _
  refine Slots.bind_eq_ok_iff.2 ⟨accepts_args hsafe hperm, ?_⟩
  rw [given_args, Slots.locals_eq_of_takes (c.nodup_locals plan hsafe) (fun b hb =>
    c.mem_locals_of_mem plan (hgiven.subset hb)) (forall₂_takes hperm)]

end Choice

theorem bind_of_not_mem_given {args : List Datum} {keywords : Bound} {p : PlannedParameter}
    (hp : p ∈ plan.pathParameters ++ plan.body.toList)
    (hleft : p.name ∉ (plan.slots.given args keywords).map (·.1)) :
    ∃ e, plan.slots.bind args keywords = .error e := by
  have hslot : requiredSlot p ∈ plan.slots.all := by
    rw [all_slots]
    simp only [List.mem_append, List.mem_cons]
    rcases List.mem_append.1 hp with hp | hp
    · exact .inl (.inl (.inr (List.mem_map_of_mem hp)))
    · exact .inr (List.mem_map_of_mem hp)
  cases hbind : plan.slots.bind args keywords with
  | error e => exact ⟨e, rfl⟩
  | ok bound =>
    have haccepts := (Slots.bind_eq_ok_iff.1 hbind).1
    exact absurd (haccepts.complete _ hslot rfl) hleft

theorem bind_of_length_lt (hsafe : plan.Safe) {values : List Datum} {keywords : Bound}
    (hlength : values.length < plan.pathParameters.length)
    (hkeywords : ∀ p ∈ plan.pathParameters, p.name ∉ keywords.map (·.1)) :
    ∃ e, plan.slots.bind (.client :: values) keywords = .error e := by
  obtain ⟨before, p, after, hsplit, hbefore⟩ : ∃ before p after,
      plan.pathParameters = before ++ p :: after ∧ before.length = values.length := by
    refine ⟨plan.pathParameters.take values.length, plan.pathParameters[values.length],
      plan.pathParameters.drop (values.length + 1), ?_,
      List.length_take_of_le (Nat.le_of_lt hlength)⟩
    rw [← List.drop_eq_getElem_cons hlength, List.take_append_drop]
  have hp : p ∈ plan.pathParameters := by simp [hsplit]
  let named := selfSlot :: before.map requiredSlot
  have hnamed : named.length = (Datum.client :: values).length := by simp [named, hbefore]
  obtain ⟨rest, hrest⟩ := prefix_positional_slots plan
  have hpositional : plan.slots.positional =
      named ++ requiredSlot p :: (after.map requiredSlot ++ rest) := by
    simp [← hrest, hsplit, named]
  have hnodup : (plan.slots.positional.map (·.name)).Nodup := by
    have hall := hsafe.nodup_self
    rw [← names_slots, Slots.names, Slots.all, List.map_append] at hall
    exact hall.of_append_left
  simp only [hpositional, List.map_append, List.map_cons, List.nodup_middle, List.nodup_cons,
    List.mem_append, not_or] at hnodup
  apply bind_of_not_mem_given (List.mem_append_left _ hp)
  rw [Slots.given, List.map_append, List.mem_append, not_or,
    Slots.bindPositional_eq hpositional hnamed,
    List.map_fst_zip (Nat.le_of_eq (by rw [List.length_map, hnamed]))]
  exact ⟨hnodup.1.1, hkeywords p hp⟩

/-- The signature of a method is valid and its arguments are the parameters of the plan. A call binds
them as they are meant, those of the path by position and the rest by name, in any order, and is an
error when a parameter is left out that is not one of the query. -/
theorem signature_accepts (endpoint : Endpoint) :
    let plan := ofEndpoint endpoint
    let signature := Render.signature plan
    signature.Valid ∧
      signature.arguments.map (·.name) = "self" :: plan.parameters.map (·.name) ∧
        ∃ slots : Slots,
          (∀ scope s, define scope signature s = .ok (slots, s)) ∧
          (∀ (c : Choice) keywords, keywords.Perm (c.keywords plan) →
            slots.bind (c.args plan) keywords = .ok (c.locals plan)) ∧
          (∀ args keywords, ∀ p ∈ plan.pathParameters ++ plan.body.toList,
            p.name ∉ (slots.given args keywords).map (·.1) →
              ∃ e, slots.bind args keywords = .error e) ∧
          ∀ values keywords, values.length < plan.pathParameters.length →
            (∀ p ∈ plan.pathParameters, p.name ∉ keywords.map (·.1)) →
              ∃ e, slots.bind (.client :: values) keywords = .error e := by
  intro plan signature
  have hsafe := safe_ofEndpoint endpoint
  have hbind : ∀ (c : Choice) keywords, keywords.Perm (c.keywords plan) →
      plan.slots.bind (c.args plan) keywords = .ok (c.locals plan) :=
    fun c keywords => Choice.bind_args hsafe
  exact ⟨valid_signature hsafe, Render.map_name_arguments_signature plan, plan.slots,
    define_signature plan, hbind, fun args keywords p => bind_of_not_mem_given,
    fun values keywords => bind_of_length_lt hsafe⟩

end Plan

namespace Assignment

def choice (a : Assignment) : Plan.Choice :=
  ⟨fun name => .text (a.path name), fun name => (a.query name).map .text, a.body⟩

theorem bind_choice (a : Assignment) {plan : Plan} (hsafe : plan.Safe) :
    plan.slots.bind (a.choice.args plan) (a.choice.keywords plan) = .ok (a.locals plan) := by
  have hquery : ∀ p : PlannedParameter, (a.choice.query p.name).getD .none = a.queryDatum p := by
    intro p
    simp only [choice, queryDatum]
    cases a.query p.name <;> rfl
  have hlocals : a.choice.locals plan = a.locals plan := by
    simp only [Plan.Choice.locals, hquery]
    rfl
  rw [← hlocals]
  exact Plan.Choice.bind_args hsafe (List.Perm.refl _)

end Assignment

end TypedClient
