import TypedClient.Proofs.Search
import TypedClient.Proofs.StandardCompletion

/-!
What the library that comes with the program looks at to complete a new model: all definitions that
the model leads to, as a search finds them.
-/

namespace TypedClient.Target

variable {known : List Meaning} {m : Imported} {s : ModelState}

theorem Reference.eq_of_object_eq {r r' : Reference} {n : String}
    (h : r.object n = r'.object n) : r = r' := by
  cases r <;> cases r' <;> simp_all [Reference.object]

theorem FieldHint.exists_schema {ms : List Meaning} {t : Term} (h : FieldHint ms t) {n : String}
    (hn : t.mention? = some n) : ∃ r, .schema r ∈ ms ∧ Text.normal r = n := by
  have hmem : n ∈ (ms.filterMap Meaning.schema?).map Text.normal := by
    rw [h.mention?_eq, hn]
    exact List.mem_singleton_self n
  obtain ⟨r, hr, rfl⟩ := List.mem_map.1 hmem
  obtain ⟨k, hk, hschema⟩ := List.mem_filterMap.1 hr
  cases k with
  | schema r' => exact ⟨r, Option.some.inj hschema ▸ hk, rfl⟩
  | imported q => cases hschema
  | builtin b => cases hschema

theorem ModelState.mem_mentions_entry {n : String} :
    n ∈ s.entry.mentions ↔ ∃ f ∈ s.fields, f.hint.mention? = some n := by
  simp [ModelState.entry]

theorem AliasState.mem_mentions_entry {a : AliasState} {n : String} :
    n ∈ a.entry.mentions ↔ a.value.mention? = some n := by
  simp [AliasState.entry]

namespace Imported

/-! A model that is not bound. -/

def push (m : Imported) (s : ModelState) : Imported := { m with models := m.models ++ [s] }

theorem setModel_push (m : Imported) (s s' : ModelState) :
    (m.push s).setModel m.models.length s' = m.push s' := by
  simp [setModel, push]

theorem Sound.push {late : Bool} (hm : m.Sound late known) (hs : s.Sound late known) :
    (m.push s).Sound late known where
  firm := hm.firm
  shows := hm.shows
  own := hm.own
  aliases := hm.aliases
  models s' hs' := by
    rcases List.mem_append.1 hs' with hs' | hs'
    · exact hm.models s' hs'
    · exact List.mem_singleton.1 hs' ▸ hs

theorem entryAt?_push {r : Reference} {e : Entry} :
    (m.push s).entryAt? r = some e ↔
      m.entryAt? r = some e ∨ r = .model m.models.length ∧ e = s.entry := by
  cases r with
  | model index =>
    simp only [entryAt?, push, Option.map_eq_some_iff, getElem?_concat_iff, Reference.model.injEq]
    constructor
    · rintro ⟨s', hs' | ⟨hindex, rfl⟩, rfl⟩
      · exact .inl ⟨s', hs', rfl⟩
      · exact .inr ⟨hindex, rfl⟩
    · rintro (⟨s', hs', rfl⟩ | ⟨hindex, rfl⟩)
      · exact ⟨s', .inl hs', rfl⟩
      · exact ⟨s, .inr ⟨hindex, rfl⟩, rfl⟩
  | «alias» index => simp [entryAt?, push]

theorem entryAt?_new : (m.push s).entryAt? (.model m.models.length) = some s.entry :=
  entryAt?_push.2 (.inr ⟨rfl, rfl⟩)

theorem exists_entryAt?_push {e : Entry} :
    e ∈ insert s.entry m.entries ↔ ∃ r, (m.push s).entryAt? r = some e := by
  rw [Set.mem_insert_iff]
  constructor
  · rintro (rfl | ⟨r, hr⟩)
    · exact ⟨.model m.models.length, entryAt?_new⟩
    · exact ⟨r, entryAt?_push.2 (.inl hr)⟩
  · rintro ⟨r, hr⟩
    rcases entryAt?_push.1 hr with hr | ⟨-, rfl⟩
    · exact .inr ⟨r, hr⟩
    · exact .inl rfl

/-! Names of definitions, where a model is being made. -/

def LooksUp (m : Imported) (title : String) (sight : Sight) (n : String) : Prop :=
  sight.names.lookup n =
    if n = title then some (.model m.models.length title) else m.names.lookup n

/-- A name stands for a definition if there is one of this name. -/
structure Resolves (m : Imported) (sight : Sight) (There : String → Prop) (n : String) : Prop where
  found : ∀ o, sight.names.lookup n = some o →
    There n ∧ ∃ r e, m.entryAt? r = some e ∧ e.name = n ∧ o = r.object n
  missing : sight.names.lookup n = none → ¬There n

section

variable (hm : m.Whole known) {sight : Sight} {r : String} (hr : .schema r ∈ known)
include hm hr

theorem Whole.resolves_module (hsight : sight.names = m.names) :
    (m.push s).Resolves sight (Entry.Binds m.entries) (Text.normal r) where
  found o ho := by
    obtain ⟨x, e, hx, hname, hobject⟩ := hm.finds r hr o (hsight ▸ ho)
    exact ⟨⟨e, ⟨x, hx⟩, hname⟩, x, e, entryAt?_push.2 (.inl hx), hname, hobject⟩
  missing hnone := by
    rintro ⟨e, ⟨x, hx⟩, hname⟩
    have hbound := hm.bound x e hx
    rw [hname, ← hsight, hnone] at hbound
    cases hbound

theorem Whole.resolves_new (hlooks : m.LooksUp s.name sight (Text.normal r)) :
    (m.push s).Resolves sight (fun n => Entry.Binds m.entries n ∨ n = s.name) (Text.normal r) := by
  unfold LooksUp at hlooks
  split at hlooks
  next hname =>
    refine ⟨fun o ho => ⟨.inr hname, .model m.models.length, s.entry, ?_, hname.symm, ?_⟩, ?_⟩
    · exact entryAt?_new
    · rw [hname]
      exact Option.some.inj (ho.symm.trans hlooks)
    · intro hnone
      cases hnone.symm.trans hlooks
  next hname =>
    have hmodule : (m.push s).Resolves m.sight (Entry.Binds m.entries) (Text.normal r) :=
      hm.resolves_module hr rfl
    refine ⟨fun o ho => ?_, fun hnone => ?_⟩
    · obtain ⟨hbinds, hentry⟩ := hmodule.found o (hlooks.symm.trans ho)
      exact ⟨.inl hbinds, hentry⟩
    · rintro (hbinds | hself)
      · exact hmodule.missing (hlooks.symm.trans hnone) hbinds
      · exact hname hself

end

theorem Resolves.cases_reads {P : Object → Prop} {sight : Sight} {t : Term} {x : Outcome Object}
    {There : String → Prop} (hreads : Reads P sight t.mention? x)
    (hresolves : ∀ n, t.mention? = some n → m.Resolves sight There n) :
    (∃ o, x = .ok o ∧ P o ∧ m.Types t o ∧ ∀ n, t.mention? = some n → There n) ∨
      ∃ n, x = .error (.undefined n) ∧ t.mention? = some n ∧ ¬There n := by
  generalize hmention : t.mention? = mention at hreads hresolves
  cases hreads with
  | @plain o ho hleaf =>
    refine .inl ⟨o, rfl, ho, ⟨by rw [hleaf, hmention]; rfl, fun n r h => ?_⟩, fun n h => ?_⟩
    · cases hleaf.symm.trans h
    · cases h
  | @found n p o ho hlookup hleaf =>
    obtain ⟨hthere, r, e, hr, hname, rfl⟩ := (hresolves n rfl).found p hlookup
    have hleaf' : o.leaf? = some (n, r) := by
      rw [hleaf]
      cases r <;> rfl
    refine .inl ⟨o, rfl, ho, ⟨by rw [hleaf', hmention]; rfl, fun n' r' h => ?_⟩, fun n' h => ?_⟩
    · obtain ⟨rfl, rfl⟩ := Prod.mk.inj (Option.some.inj (hleaf'.symm.trans h))
      exact ⟨e, hr, hname⟩
    · exact Option.some.inj h ▸ hthere
  | @missing n hlookup => exact .inr ⟨n, rfl, rfl, (hresolves n rfl).missing hlookup⟩

/-! Fields. -/

def HasType (m : Imported) (f : FieldState) : Prop :=
  ∃ o, f.type = some o ∧ o.IsType false ∧ m.Types f.hint o

theorem Types.there_push {t : Term} {o : Object} (h : (m.push s).Types t o) {n : String}
    (hn : t.mention? = some n) : Entry.Binds m.entries n ∨ n = s.name := by
  have hname := h.named
  rw [hn] at hname
  obtain ⟨⟨n', r⟩, hleaf, rfl⟩ := Option.map_eq_some_iff.1 hname
  obtain ⟨e, he, hname⟩ := h.there n' r hleaf
  rcases entryAt?_push.1 he with he | ⟨-, rfl⟩
  · exact .inl ⟨e, ⟨r, he⟩, hname⟩
  · exact .inr hname.symm

theorem Types.of_push {t : Term} {o : Object} {s' : ModelState} (h : (m.push s).Types t o)
    (hname : s'.name = s.name) : (m.push s').Types t o where
  named := h.named
  there n r hleaf := by
    obtain ⟨e, he, rfl⟩ := h.there n r hleaf
    rcases entryAt?_push.1 he with he | ⟨rfl, rfl⟩
    · exact ⟨e, entryAt?_push.2 (.inl he), rfl⟩
    · exact ⟨s'.entry, entryAt?_new, hname⟩

theorem Whole.settledField_cases (hm : m.Whole known) {sight : Sight} {f : FieldState}
    (hhint : ∃ ms ⊆ known, FieldHint ms f.hint)
    (htype : ∀ o, f.type = some o → o.IsType false ∧ (m.push s).Types f.hint o)
    (hshows : ∀ k ∈ known, sight.Shows false k)
    (hlooks : ∀ n, n ∉ fixedNames → m.LooksUp s.name sight n) :
    (∃ f', settledField sight f = .ok f' ∧ (f'.hint = f.hint ∧ (m.push s).HasType f') ∧
        ∀ n, f.hint.mention? = some n → Entry.Binds m.entries n ∨ n = s.name) ∨
      ∃ n, settledField sight f = .error (.undefined n) ∧ f.hint.mention? = some n ∧
        ¬(Entry.Binds m.entries n ∨ n = s.name) := by
  unfold settledField
  split
  next o ho =>
    obtain ⟨ho', hnamed⟩ := htype o ho
    exact .inl ⟨f, rfl, ⟨rfl, o, ho, ho', hnamed⟩, fun n hn => hnamed.there_push hn⟩
  next =>
    obtain ⟨ms, hms, hhint⟩ := hhint
    have hcases := Resolves.cases_reads (hhint.reads_ofHint fun k hk => hshows k (hms hk))
      fun n hn => by
        obtain ⟨r, hr, rfl⟩ := hhint.exists_schema hn
        have hfirm : IsFree (Text.normal r) := hm.firm _ (hms hr)
        exact hm.resolves_new (hms hr) (hlooks _ hfirm.own.1)
    rcases hcases with ⟨o, ho, ho', hnamed, hthere⟩ | ⟨n, hn, hmention, hmissing⟩
    · rw [ho]
      exact .inl ⟨_, rfl, ⟨rfl, o, rfl, ho', hnamed⟩, hthere⟩
    · rw [hn]
      exact .inr ⟨n, rfl, hmention, hmissing⟩

theorem Whole.settledFields_cases (hm : m.Whole known) {sight : Sight} {fields : List FieldState}
    (hhints : ∀ f ∈ fields, ∃ ms ⊆ known, FieldHint ms f.hint)
    (htypes : ∀ f ∈ fields, ∀ o, f.type = some o → o.IsType false ∧ (m.push s).Types f.hint o)
    (hshows : ∀ k ∈ known, sight.Shows false k)
    (hlooks : ∀ n, n ∉ fixedNames → m.LooksUp s.name sight n) :
    (∃ fields', settledFields sight fields = .ok fields' ∧
        List.Forall₂ (fun f f' => f'.hint = f.hint ∧ (m.push s).HasType f') fields fields' ∧
        ∀ f ∈ fields, ∀ n, f.hint.mention? = some n → Entry.Binds m.entries n ∨ n = s.name) ∨
      ∃ n, settledFields sight fields = .error (.undefined n) ∧
        ∃ f ∈ fields, f.hint.mention? = some n ∧ ¬(Entry.Binds m.entries n ∨ n = s.name) := by
  have hcases := fun f hf =>
    hm.settledField_cases (s := s) (hhints f hf) (htypes f hf) hshows hlooks
  cases hresult : settledFields sight fields with
  | error e =>
    obtain ⟨f, hf, herror⟩ := Outcome.exists_of_mapM_eq_error hresult
    rcases hcases f hf with ⟨f', hf', -⟩ | ⟨n, hn, hmissing⟩
    · cases hf'.symm.trans herror
    · obtain rfl := Except.error.inj (hn.symm.trans herror)
      exact .inr ⟨n, rfl, f, hf, hmissing⟩
  | ok fields' =>
    have hall : ∀ f ∈ fields, ∀ f', settledField sight f = .ok f' →
        (f'.hint = f.hint ∧ (m.push s).HasType f') ∧
          ∀ n, f.hint.mention? = some n → Entry.Binds m.entries n ∨ n = s.name := by
      intro f hf f' hf'
      rcases hcases f hf with ⟨f'', hf'', hsettled⟩ | ⟨n, hn, -⟩
      · obtain rfl := Except.ok.inj (hf''.symm.trans hf')
        exact hsettled
      · cases hn.symm.trans hf'
    have hrelated := Outcome.mapM_eq_ok.1 hresult
    refine .inl ⟨fields', rfl, ?_, fun f hf => ?_⟩
    · exact Outcome.forall₂_imp_of_mem (fun f hf f' h => (hall f hf f' h).1) hrelated
    · obtain ⟨f', -, hf'⟩ := Outcome.exists_ok_of_mem hresult hf
      exact (hall f hf f' hf').2

/-! Schemas of types. -/

def leaves (o : Object) : List Reference := (o.leaf?.map (·.2)).toList

def fieldLeaves (fields : List FieldState) : List Reference :=
  (fields.filterMap (·.type)).flatMap leaves

theorem trace_eq {enter : Trace → Reference → Outcome Trace} {o : Object} (ho : o.IsType false)
    (t : Trace) : trace enter t o = (leaves o).foldlM enter t := by
  have hplain : ∀ {o : Object}, o.IsPlain false →
      ∀ t, trace enter t o = (leaves o).foldlM enter t := by
    intro o ho
    induction ho with
    | model index name => exact fun t => (bind_pure _).symm
    | typeAlias index name => exact fun t => (bind_pure _).symm
    | client name hlate => cases hlate
    | @builtin b hb =>
      intro t
      have hall : ∀ b ∈ Warning.builtinTypes, b ≠ "type" ∧ schemaBuiltins.contains b = true := by
        decide
      rw [trace, if_neg (hall b hb).1, if_pos (hall b hb).2]
      rfl
    | @library q n hq =>
      intro t
      have hall : ∀ q ∈ libraryTypes, schemaClasses.contains q = true := by decide
      rw [trace, if_pos (hall _ hq)]
      rfl
    | @list o _ ih =>
      intro t
      have hlist : schemaBuiltins.contains "list" = true := rfl
      have hleaves : leaves (.generic (.builtinClass "list") [o]) = leaves o := by
        rw [leaves, Object.leaf?, leaves]
      rw [trace, if_pos hlist, hleaves, ← ih t]
      exact bind_pure (trace enter t o)
  cases ho with
  | plain ho => exact hplain ho t
  | @optional o ho =>
    have hsingle : (([o, .null] : List Object).filter (!Object.isNull ·)).length ≤ 1 := by
      have hnull : Object.isNull .null = true := rfl
      simp [ho.isNull_eq, hnull]
    have hfirst : traceFirst enter [o, .null].length t [o, .null] = trace enter t o :=
      bind_pure (trace enter t o)
    have hleaves : leaves (.union false [o, .null]) = leaves o := by
      rw [leaves, Object.leaf?, leaves]
    rw [trace, hfirst, hleaves, ← hplain ho t]
    simp only [if_pos hsingle]
    exact bind_pure (trace enter t o)

theorem traceFirst_eq {enter : Trace → Reference → Outcome Trace} {os : List Object}
    (hos : ∀ o ∈ os, o.IsType false) :
    ∀ count t, os.length ≤ count →
      traceFirst enter count t os = (os.flatMap leaves).foldlM enter t := by
  induction os with
  | nil => exact fun count t _ => rfl
  | cons o rest ih =>
    intro count t hcount
    have hpositive : count ≠ 0 := fun h => by simp [h] at hcount
    rw [traceFirst, if_neg hpositive, trace_eq (hos o List.mem_cons_self), List.flatMap_cons,
      List.foldlM_append]
    refine bind_congr fun after => ih (fun p hp => hos p (List.mem_cons_of_mem _ hp)) _ _ ?_
    simp only [List.length_cons] at hcount
    omega

theorem traceFields_eq {enter : Trace → Reference → Outcome Trace} {fields : List FieldState}
    (hfields : ∀ f ∈ fields, m.HasType f) (t : Trace) :
    traceFields enter t fields = (fieldLeaves fields).foldlM enter t := by
  refine traceFirst_eq (fun o ho => ?_) _ t (List.length_filterMap_le _ _)
  obtain ⟨f, hf, hfo⟩ := List.mem_filterMap.1 ho
  obtain ⟨o', ho', htype, -⟩ := hfields f hf
  exact Option.some.inj (hfo.symm.trans ho') ▸ htype

theorem foldlM_seen {enter : Trace → Reference → Outcome Trace}
    {visit : List Reference → Reference → Outcome (List Reference)} {rs : List Reference}
    (h : ∀ r ∈ rs, ∀ t, enter t r = (visit t.seen r).map fun seen => { t with seen }) (t : Trace) :
    rs.foldlM enter t = (rs.foldlM visit t.seen).map fun seen => { t with seen } := by
  induction rs generalizing t with
  | nil => rfl
  | cons r rest ih =>
    rw [List.foldlM_cons, List.foldlM_cons, h r List.mem_cons_self]
    cases visit t.seen r with
    | error e => rfl
    | ok seen => exact ih (fun r hr => h r (List.mem_cons_of_mem _ hr)) { t with seen }

def next (m : Imported) (first : List (String × Object)) : Reference → Outcome (List Reference)
  | .model index =>
    match m.models[index]? with
    | none => .ok []
    | some s =>
      if s.isComplete then .ok []
      else settledFields (m.hintSight index s.name first) s.fields >>= fun fields =>
        .ok (fieldLeaves fields)
  | .alias index =>
    match m.aliases[index]? with
    | none => .ok []
    | some a =>
      Object.ofAlias m.sight (m.sight.within first) a.value >>= fun o => .ok (leaves o)

/-! A model that is being made. -/

/-- An incomplete model of a new name. -/
structure Makes (m : Imported) (known : List Meaning) (s : ModelState) : Prop where
  whole : m.Whole known
  sound : s.Sound false known
  own : IsOwn s.name
  fresh : m.names.lookup s.name = none
  isIncomplete : s.isComplete = false
  types : ∀ f ∈ s.fields, ∀ o, f.type = some o → (m.push s).Types f.hint o

def first (m : Imported) (s : ModelState) : List (String × Object) :=
  [(s.name, .model m.models.length s.name)]

/-- What comes next to a definition while a model is made: nothing after a complete model, the
definitions that it names if they are all there, or a fault. -/
inductive LeadsTo (m : Imported) (s : ModelState) (e : Entry) : Outcome (List Reference) → Prop
  | closed : Entry.Binds m.entries e.name → Entry.Closed m.entries e.name → LeadsTo m s e (.ok [])
  | ready {rs} : Entry.Ready m.entries s.entry e →
      (∀ n, n ∈ e.mentions ↔ ∃ r ∈ rs, ∃ e', (m.push s).entryAt? r = some e' ∧ e'.name = n) →
      (∀ r ∈ rs, ∃ e', (m.push s).entryAt? r = some e') → LeadsTo m s e (.ok rs)
  | waits {n} : ¬Entry.Ready m.entries s.entry e → LeadsTo m s e (.error (.undefined n))

theorem LeadsTo.exists_entry {e : Entry} {rs : List Reference} (h : m.LeadsTo s e (.ok rs))
    {r : Reference} (hr : r ∈ rs) : ∃ e', (m.push s).entryAt? r = some e' := by
  cases h with
  | closed => cases hr
  | ready _ _ hthere => exact hthere r hr

theorem Types.push {t : Term} {o : Object} (h : m.Types t o) : (m.push s).Types t o where
  named := h.named
  there n r hleaf := by
    obtain ⟨e, he, hname⟩ := h.there n r hleaf
    exact ⟨e, entryAt?_push.2 (.inl he), hname⟩

theorem Types.exists_entry {t : Term} {o : Object} (h : m.Types t o) {r : Reference}
    (hr : r ∈ leaves o) : ∃ e, m.entryAt? r = some e := by
  obtain ⟨⟨n, r'⟩, hleaf, rfl⟩ := Option.map_eq_some_iff.1 (Option.mem_toList.1 hr)
  obtain ⟨e, he, -⟩ := h.there n r' hleaf
  exact ⟨e, he⟩

theorem Types.mention?_iff {t : Term} {o : Object} (h : m.Types t o) {n : String} :
    t.mention? = some n ↔ ∃ r ∈ leaves o, ∃ e, m.entryAt? r = some e ∧ e.name = n := by
  rw [← h.named, Option.map_eq_some_iff]
  constructor
  · rintro ⟨⟨n', r⟩, hleaf, rfl⟩
    exact ⟨r, Option.mem_toList.2 (Option.map_eq_some_iff.2 ⟨_, hleaf, rfl⟩), h.there n' r hleaf⟩
  · rintro ⟨r, hr, e, he, rfl⟩
    obtain ⟨⟨n', r'⟩, hleaf, rfl⟩ := Option.map_eq_some_iff.1 (Option.mem_toList.1 hr)
    obtain ⟨e', he', rfl⟩ := h.there n' r' hleaf
    obtain rfl := Option.some.inj (he.symm.trans he')
    exact ⟨_, hleaf, rfl⟩

theorem mem_fieldLeaves {fields : List FieldState} {r : Reference} :
    r ∈ fieldLeaves fields ↔ ∃ f ∈ fields, ∃ o, f.type = some o ∧ r ∈ leaves o := by
  simp only [fieldLeaves, List.mem_flatMap, List.mem_filterMap]
  constructor
  · rintro ⟨o, ⟨f, hf, ho⟩, hr⟩
    exact ⟨f, hf, o, ho, hr⟩
  · rintro ⟨f, hf, o, ho, hr⟩
    exact ⟨o, ⟨f, hf, ho⟩, hr⟩

section

variable {fields fields' : List FieldState}
  (htyped : List.Forall₂ (fun f f' => f'.hint = f.hint ∧ m.HasType f') fields fields')
include htyped

theorem exists_entry_of_typed {r : Reference} (hr : r ∈ fieldLeaves fields') :
    ∃ e, m.entryAt? r = some e := by
  obtain ⟨f', hf', o, ho, hleaf⟩ := mem_fieldLeaves.1 hr
  obtain ⟨f, -, -, o', ho', -, htypes⟩ := Outcome.exists_of_mem_right htyped hf'
  obtain rfl := Option.some.inj (ho.symm.trans ho')
  exact htypes.exists_entry hleaf

theorem mention?_iff_of_typed {n : String} :
    (∃ f ∈ fields, f.hint.mention? = some n) ↔
      ∃ r ∈ fieldLeaves fields', ∃ e, m.entryAt? r = some e ∧ e.name = n := by
  constructor
  · rintro ⟨f, hf, hmention⟩
    obtain ⟨f', hf', hhint, o, ho, -, htypes⟩ := Outcome.exists_of_mem_left htyped hf
    obtain ⟨r, hr, hentry⟩ := htypes.mention?_iff.1 (hhint ▸ hmention)
    exact ⟨r, mem_fieldLeaves.2 ⟨f', hf', o, ho, hr⟩, hentry⟩
  · rintro ⟨r, hr, hentry⟩
    obtain ⟨f', hf', o, ho, hleaf⟩ := mem_fieldLeaves.1 hr
    obtain ⟨f, hf, hhint, o', ho', -, htypes⟩ := Outcome.exists_of_mem_right htyped hf'
    obtain rfl := Option.some.inj (ho.symm.trans ho')
    exact ⟨f, hf, hhint ▸ htypes.mention?_iff.2 ⟨r, hleaf, hentry⟩⟩

end

namespace Makes

variable (h : m.Makes known s)
include h

theorem not_binds : ¬Entry.Binds m.entries s.name := by
  rintro ⟨e, ⟨r, hr⟩, hname⟩
  have hbound := h.whole.bound r e hr
  rw [hname, h.fresh] at hbound
  cases hbound

theorem entry_unique {r r' : Reference} {e e' : Entry} (hr : (m.push s).entryAt? r = some e)
    (hr' : (m.push s).entryAt? r' = some e') (hname : e.name = e'.name) : r = r' ∧ e = e' := by
  have hreference : r = r' := by
    rcases entryAt?_push.1 hr with hr | ⟨rfl, rfl⟩ <;>
      rcases entryAt?_push.1 hr' with hr' | ⟨rfl, rfl⟩
    · have hbound := h.whole.bound r e hr
      rw [hname, h.whole.bound r' e' hr'] at hbound
      exact (Reference.eq_of_object_eq (Option.some.inj hbound)).symm
    · exact absurd ⟨e, ⟨r, hr⟩, hname⟩ h.not_binds
    · exact absurd ⟨e', ⟨r', hr'⟩, hname.symm⟩ h.not_binds
    · rfl
  subst hreference
  exact ⟨rfl, Option.some.inj (hr.symm.trans hr')⟩

theorem sound_push : (m.push s).Sound false known := h.whole.toSound.push h.sound

section

variable {index : Nat} {s' : ModelState} (hs' : (m.push s).models[index]? = some s')
  {first : List (String × Object)} (hfirst : first = m.first s ∨ first = [] ∧ s' = s)
include hs' hfirst

theorem looksUp {n : String} (hn : n ∉ fixedNames) :
    m.LooksUp s.name ((m.push s).hintSight index s'.name first) n := by
  have hlookup : ((m.push s).hintSight index s'.name first).names.lookup n =
      if n = s'.name then some (.model index s'.name)
      else if n = s.name then some (.model m.models.length s.name) else m.names.lookup n := by
    have hclass := lookup_classNames (m.push s) hn
    change List.lookup n ((s'.name, _) :: (((m.push s).classNames ++ first) ++ m.names)) = _
    by_cases hself : n = s'.name
    · rw [if_pos hself, hself, List.lookup_cons_self]
    · rw [if_neg hself, lookup_cons_of_ne hself, List.append_assoc, List.lookup_append, hclass,
        Option.none_or]
      rcases hfirst with rfl | ⟨rfl, rfl⟩
      · by_cases hnew : n = s.name
        · rw [if_pos hnew, hnew, Imported.first, List.singleton_append, List.lookup_cons_self]
        · rw [if_neg hnew, Imported.first, List.singleton_append, lookup_cons_of_ne hnew]
      · rw [if_neg hself, List.nil_append]
  rw [LooksUp, hlookup]
  by_cases hself : n = s'.name
  · rw [if_pos hself]
    rcases getElem?_concat_iff.1 hs' with hold | ⟨rfl, rfl⟩
    · have hentry := entryAt?_model hold
      have hne : s'.name ≠ s.name := fun hname => h.not_binds ⟨_, ⟨_, hentry⟩, hname⟩
      have hbound := h.whole.bound _ _ hentry
      rw [hself, if_neg hne]
      exact hbound.symm
    · rw [if_pos hself]
  · rw [if_neg hself]

theorem settledFields_cases :
    (∃ fields, settledFields ((m.push s).hintSight index s'.name first) s'.fields = .ok fields ∧
        List.Forall₂ (fun f f' => f'.hint = f.hint ∧ (m.push s).HasType f') s'.fields fields ∧
        Entry.Ready m.entries s.entry s'.entry) ∨
      ∃ n, settledFields ((m.push s).hintSight index s'.name first) s'.fields =
          .error (.undefined n) ∧ ¬Entry.Ready m.entries s.entry s'.entry := by
  have hsound := h.sound_push.models s' (List.mem_of_getElem? hs')
  have hpasses : ∀ k ∈ known, Sight.Passes false first k := by
    intro k hk
    rcases hfirst with rfl | ⟨rfl, -⟩
    · exact passes_definition h.sound.title (.model _ _) (h.whole.firm k hk)
    · exact passes_of_unbound rfl
  have htypes : ∀ f ∈ s'.fields, ∀ o, f.type = some o → (m.push s).Types f.hint o := by
    rcases getElem?_concat_iff.1 hs' with hold | ⟨-, rfl⟩
    · exact fun f hf o ho => (h.whole.typed s' (List.mem_of_getElem? hold) f hf o ho).push
    · exact h.types
  rcases h.whole.settledFields_cases (s := s) hsound.hints
      (fun f hf o ho => ⟨hsound.types f hf o ho, htypes f hf o ho⟩)
      (fun k hk => shows_hintSight (h.sound_push.shows k hk) (h.whole.firm k hk) hsound.title
        index (hpasses k hk)) (fun n hn => h.looksUp hs' hfirst hn) with
    ⟨fields, hfields, hrelated, hthere⟩ | ⟨n, hn, f, hf, hmention, hmissing⟩
  · refine .inl ⟨fields, hfields, hrelated, fun n hn => ?_⟩
    obtain ⟨f, hf, hmention⟩ := ModelState.mem_mentions_entry.1 hn
    exact (hthere f hf n hmention).imp_right fun hname => ⟨hname, rfl⟩
  · refine .inr ⟨n, hn, fun hready => hmissing ?_⟩
    have hmem := ModelState.mem_mentions_entry.2 ⟨f, hf, hmention⟩
    exact (hready n hmem).imp_right And.left

end

theorem next_leadsTo {r : Reference} {e : Entry} (hr : (m.push s).entryAt? r = some e) :
    m.LeadsTo s e ((m.push s).next (m.first s) r) := by
  cases r with
  | model index =>
    obtain ⟨s', hs', rfl⟩ := Option.map_eq_some_iff.1 hr
    simp only [next, hs']
    split
    next hcomplete =>
      rcases getElem?_concat_iff.1 hs' with hold | ⟨-, rfl⟩
      · exact .closed ⟨_, ⟨_, entryAt?_model hold⟩, rfl⟩
          (h.whole.closed s' (List.mem_of_getElem? hold) hcomplete)
      · cases h.isIncomplete.symm.trans hcomplete
    next =>
      rcases h.settledFields_cases hs' (.inl rfl) with
        ⟨fields, hfields, hrelated, hready⟩ | ⟨n, hn, hmissing⟩
      · rw [hfields]
        exact .ready hready
          (fun n => ModelState.mem_mentions_entry.trans (mention?_iff_of_typed hrelated))
          fun r hr => exists_entry_of_typed hrelated hr
      · rw [hn]
        exact .waits hmissing
  | «alias» index =>
    obtain ⟨a, ha, rfl⟩ := Option.map_eq_some_iff.1 hr
    obtain ⟨ms, hms, hhint⟩ := h.whole.aliases a (List.mem_of_getElem? ha)
    have hshows : ∀ k ∈ ms, (m.push s).sight.Shows false k := fun k hk =>
      h.whole.shows k (hms hk)
    have hkind : a.entry.kind ≠ .model := by
      simp only [AliasState.entry]
      split <;> simp
    have hresolves : ∀ n, a.value.mention? = some n →
        (m.push s).Resolves (m.push s).sight (Entry.Binds m.entries) n := by
      intro n hn
      obtain ⟨r, hr, rfl⟩ := (FieldHint.plain hhint).exists_schema hn
      exact h.whole.resolves_module (hms hr) rfl
    simp only [next, ha, hhint.ofAlias_eq hshows]
    rcases Resolves.cases_reads (hhint.reads hshows) hresolves with
      ⟨o, ho, -, htypes, hthere⟩ | ⟨n, hn, hmention, hmissing⟩
    · rw [ho]
      refine .ready (fun n hn => ?_) (fun n => ?_) fun r hr => htypes.exists_entry hr
      · exact .inl (hthere n (AliasState.mem_mentions_entry.1 hn))
      · exact AliasState.mem_mentions_entry.trans htypes.mention?_iff
    · rw [hn]
      refine .waits fun hready => ?_
      rcases hready n (AliasState.mem_mentions_entry.2 hmention) with hbinds | ⟨-, hmodel⟩
      · exact hmissing hbinds
      · exact hkind hmodel

theorem enter_eq (depth : Nat) :
    ∀ t r, (∃ e, (m.push s).entryAt? r = some e) →
      (m.push s).enter (m.first s) depth t r =
        (Search.visit ((m.push s).next (m.first s)) depth t.seen r).map
          fun seen => { t with seen } := by
  -- on the depth: types of definitions that are there leave what is described as it is
  induction depth with
  | zero => exact fun t r _ => rfl
  | succ depth ih =>
    intro t r hthere
    by_cases hseen : r ∈ t.seen
    · rw [enter.eq_def, Search.visit, if_pos hseen, List.contains_iff_mem.2 hseen]
      rfl
    have hnew : t.seen.contains r = false := by simpa using hseen
    obtain ⟨e, he⟩ := hthere
    have hnext := h.next_leadsTo he
    rw [enter.eq_def, Search.visit, if_neg hseen, hnew]
    cases r with
    | model index =>
      obtain ⟨s', hs', -⟩ := Option.map_eq_some_iff.1 he
      have hsound := h.sound_push.models s' (List.mem_of_getElem? hs')
      simp only [next, hs'] at hnext ⊢
      split
      next =>
        rw [hsound.described]
        rfl
      next hincomplete =>
        rw [if_neg hincomplete] at hnext
        rcases h.settledFields_cases hs' (.inl rfl) with ⟨fields, hfields, hrelated, -⟩ | ⟨n, hn, -⟩
        · have htyped : ∀ f ∈ fields, (m.push s).HasType f := fun f hf =>
            (Outcome.exists_of_mem_right hrelated hf).elim fun _ hf => hf.2.2
          rw [hfields, Outcome.ok_bind] at hnext
          rw [hfields, Outcome.ok_bind, traceFields_eq htyped]
          exact foldlM_seen (fun r hr t => ih t r (hnext.exists_entry hr)) _
        · rw [hn]
          rfl
    | «alias» index =>
      obtain ⟨a, ha, -⟩ := Option.map_eq_some_iff.1 he
      obtain ⟨ms, hms, hhint⟩ := h.whole.aliases a (List.mem_of_getElem? ha)
      have hshows : ∀ k ∈ ms, (m.push s).sight.Shows false k := fun k hk =>
        h.whole.shows k (hms hk)
      have hreads := hhint.reads hshows
      simp only [next, ha, hhint.ofAlias_eq hshows] at hnext ⊢
      cases ho : Object.ofTerm (m.push s).sight a.value with
      | error e => rfl
      | ok o =>
        rw [ho] at hreads
        rw [ho, Outcome.ok_bind] at hnext
        have hplain : Settles false (Object.IsPlain false) (.ok o) := hreads.settles
        rw [Outcome.ok_bind, trace_eq (.plain hplain)]
        exact foldlM_seen (fun r hr t => ih t r (hnext.exists_entry hr)) _

end Makes

end Imported

end TypedClient.Target
