import TypedClient.Proofs.StandardModels
import TypedClient.Proofs.StandardSearch

/-!
How the library that comes with the program makes a model: it is refused if it leads to aliases that
stand for each other, complete if all that it leads to is there, and waits otherwise.
-/

namespace TypedClient.Target

open Relation

variable {known : List Meaning} {m : Imported} {s : ModelState}

namespace Imported

theorem exists_alias {e : Entry} (he : e ∈ m.entries) (hkind : e.kind = .synonym) :
    ∃ (index : Nat) (a : AliasState), m.aliases[index]? = some a ∧ e = a.entry := by
  obtain ⟨r, hr⟩ := he
  cases r with
  | model index =>
    obtain ⟨s', -, rfl⟩ := Option.map_eq_some_iff.1 hr
    cases hkind
  | «alias» index =>
    obtain ⟨a, ha, rfl⟩ := Option.map_eq_some_iff.1 hr
    exact ⟨index, a, ha, rfl⟩

theorem leadsOn_eq (first : List (String × Object)) (steps index : Nat) :
    m.leadsOn first steps index = Search.leads (m.aliasTarget? first) steps index := by
  induction steps generalizing index with
  | zero => rfl
  | succ steps ih =>
    rw [leadsOn, Search.leads]
    cases m.aliasTarget? first index with
    | none => rfl
    | some target => exact ih target

namespace Makes

variable (h : m.Makes known s)
include h

theorem mem_of_binds {e : Entry} (he : e ∈ insert s.entry m.entries)
    (hbinds : Entry.Binds m.entries e.name) : e ∈ m.entries := by
  refine (Set.mem_insert_iff.1 he).resolve_left ?_
  rintro rfl
  exact h.not_binds hbinds

/-! What the search finds. -/

theorem reaches_of_steps {r : Reference}
    (hreach : ReflTransGen (Search.Step ((m.push s).next (m.first s))) (.model m.models.length) r) :
    ∃ e, (m.push s).entryAt? r = some e ∧
      Entry.Reaches (insert s.entry m.entries) s.name e.name := by
  induction hreach with
  | refl => exact ⟨s.entry, entryAt?_new, .refl⟩
  | @tail r r' _ hstep ih =>
    obtain ⟨e, he, hreach⟩ := ih
    obtain ⟨rs, hrs, hr'⟩ := hstep
    have hleads := h.next_leadsTo he
    rw [hrs] at hleads
    cases hleads with
    | closed => cases hr'
    | ready hready hmentions hthere =>
      obtain ⟨e', he'⟩ := hthere r' hr'
      refine ⟨e', he', hreach.tail ⟨e, exists_entryAt?_push.2 ⟨r, he⟩, rfl, ?_⟩⟩
      exact (hmentions e'.name).2 ⟨r', hr', e', he', rfl⟩

section

variable {seen : List Reference}
  (hseen : Search.Explored ((m.push s).next (m.first s)) [.model m.models.length] [] seen)
include hseen

theorem seen_of_reaches {n : String}
    (hreach : Entry.Reaches (insert s.entry m.entries) s.name n) :
    (∃ r ∈ seen, ∃ e, (m.push s).entryAt? r = some e ∧ e.name = n) ∨
      Entry.Binds m.entries n ∧ Entry.Closed m.entries n := by
  have hafter : ∀ {n n'}, Entry.Binds m.entries n → Entry.Closed m.entries n →
      Entry.Mentions (insert s.entry m.entries) n n' →
        Entry.Binds m.entries n' ∧ Entry.Closed m.entries n' := by
    intro n n' hbinds hclosed hmentions
    obtain ⟨hmention, hthere⟩ :=
      hclosed.mentions_of_insert h.not_binds .refl hbinds hmentions
    exact ⟨hthere, hclosed.of_reaches (.single hmention)⟩
  induction hreach with
  | refl =>
    exact .inl ⟨_, hseen.asked (List.mem_singleton_self _), s.entry, entryAt?_new, rfl⟩
  | @tail n n' _ hstep ih =>
    rcases ih with ⟨r, hr, e, he, rfl⟩ | ⟨hbinds, hclosed⟩
    · obtain ⟨-, rs, hrs, hsub⟩ := hseen.new r hr List.not_mem_nil
      have hleads := h.next_leadsTo he
      rw [hrs] at hleads
      cases hleads with
      | closed hbinds hclosed => exact .inr (hafter hbinds hclosed hstep)
      | ready hready hmentions hthere =>
        obtain ⟨e', he', hname, hn'⟩ := hstep
        obtain ⟨r', hr'⟩ := exists_entryAt?_push.1 he'
        obtain ⟨-, rfl⟩ := h.entry_unique hr' he hname
        obtain ⟨x, hx, hentry⟩ := (hmentions n').1 hn'
        exact .inl ⟨x, hsub hx, hentry⟩
    · exact .inr (hafter hbinds hclosed hstep)

theorem ready_of_seen {e : Entry} (he : e ∈ insert s.entry m.entries)
    (hreach : Entry.Reaches (insert s.entry m.entries) s.name e.name) :
    Entry.Ready m.entries s.entry e := by
  have hclosed : Entry.Binds m.entries e.name → Entry.Closed m.entries e.name →
      Entry.Ready m.entries s.entry e := fun hbinds hclosed n hn =>
    .inl ((hclosed e (h.mem_of_binds he hbinds) .refl).1 n hn)
  rcases h.seen_of_reaches hseen hreach with ⟨r, hr, e', he', hname⟩ | ⟨hbinds, hafter⟩
  · obtain ⟨r', hr'⟩ := exists_entryAt?_push.1 he
    obtain ⟨-, rfl⟩ := h.entry_unique hr' he' hname.symm
    obtain ⟨-, rs, hrs, -⟩ := hseen.new r hr List.not_mem_nil
    have hleads := h.next_leadsTo he'
    rw [hrs] at hleads
    cases hleads with
    | closed hbinds hafter => exact hclosed hbinds hafter
    | ready hready => exact hready
  · exact hclosed hbinds hafter

end

theorem not_closesCircle_of_error {r : Reference} {fault : Fault}
    (hreach : ReflTransGen (Search.Step ((m.push s).next (m.first s))) (.model m.models.length) r)
    (hfault : (m.push s).next (m.first s) r = .error fault) :
    (∃ n, fault = .undefined n) ∧ ¬Entry.ClosesCircle m.entries s.entry := by
  obtain ⟨e, he, hnamed⟩ := h.reaches_of_steps hreach
  have hleads := h.next_leadsTo he
  rw [hfault] at hleads
  cases hleads with
  | waits hmissing =>
    exact ⟨⟨_, rfl⟩, fun hcircle =>
      hmissing (hcircle.ready e (exists_entryAt?_push.2 ⟨r, he⟩) hnamed)⟩

/-! Aliases that stand for each other. -/

theorem aliasTarget?_iff {index target : Nat} {a : AliasState}
    (ha : m.aliases[index]? = some a) :
    (m.push s).aliasTarget? (m.first s) index = some target ↔
      ∃ b, m.aliases[target]? = some b ∧ Entry.Stands m.entries a.name b.name := by
  obtain ⟨ms, hms, hhint⟩ := h.whole.aliases a (List.mem_of_getElem? ha)
  have hshows : ∀ k ∈ ms, (m.push s).sight.Shows false k := fun k hk =>
    h.whole.shows k (hms hk)
  have htarget : (m.push s).aliasTarget? (m.first s) index = some target ↔
      ∃ name, Object.ofTerm (m.push s).sight a.value = .ok (.typeAlias target name) := by
    have hpushed : (m.push s).aliases[index]? = some a := ha
    rw [aliasTarget?, hpushed]
    simp only [Option.bind_eq_bind, Option.bind_some, hhint.ofAlias_eq hshows]
    split
    next target' name heq => simp [heq]
    next hother =>
      constructor
      · intro hnone
        cases hnone
      · rintro ⟨name, hname⟩
        exact absurd hname (hother target name)
  simp only [htarget, hhint.ofTerm_typeAlias_iff hshows]
  constructor
  · rintro ⟨name, hisName, n, hmention, hlookup⟩
    obtain ⟨r, hr, rfl⟩ := (FieldHint.plain hhint).exists_schema hmention
    obtain ⟨x, e, hx, hname, hobject⟩ := h.whole.finds r (hms hr) _ hlookup
    cases x with
    | model other => cases hobject
    | «alias» other =>
      obtain ⟨rfl, -⟩ := Object.typeAlias.inj hobject
      obtain ⟨b, hb, rfl⟩ := Option.map_eq_some_iff.1 hx
      refine ⟨b, hb, a.entry, ⟨_, entryAt?_alias ha⟩, rfl, if_pos hisName, ?_⟩
      exact AliasState.mem_mentions_entry.2 (hmention.trans (congrArg some hname.symm))
  · rintro ⟨b, hb, e, ⟨r, hr⟩, hname, hkind, hmem⟩
    obtain ⟨-, rfl⟩ := h.entry_unique (entryAt?_push.2 (.inl hr))
      (entryAt?_push.2 (.inl (entryAt?_alias ha))) hname
    have hisName : a.value.isName = true := by
      by_contra hother
      rw [AliasState.entry, if_neg hother] at hkind
      cases hkind
    exact ⟨b.name, hisName, b.name, AliasState.mem_mentions_entry.1 hmem,
      h.whole.bound _ _ (entryAt?_alias hb)⟩

theorem exists_alias_of_target {index target : Nat}
    (htarget : (m.push s).aliasTarget? (m.first s) index = some target) :
    ∃ a b, m.aliases[index]? = some a ∧ m.aliases[target]? = some b ∧
      Entry.Stands m.entries a.name b.name := by
  obtain ⟨a, ha, -⟩ := Option.bind_eq_some_iff.1 htarget
  obtain ⟨b, hb, hstands⟩ := (h.aliasTarget?_iff ha).1 htarget
  exact ⟨a, b, ha, hb, hstands⟩

theorem circle_of_endless {index : Nat} {a : AliasState} (ha : m.aliases[index]? = some a)
    (hendless : Search.Endless ((m.push s).aliasTarget? (m.first s)) index) :
    ∃ n, ReflTransGen (Entry.Stands m.entries) a.name n ∧
      TransGen (Entry.Stands m.entries) n n := by
  let name (index : Nat) : String := ((m.aliases[index]?).map (·.name)).getD ""
  have hstep : ∀ i j, Search.Follows ((m.push s).aliasTarget? (m.first s)) i j →
      Entry.Stands m.entries (name i) (name j) := by
    intro i j hfollows
    obtain ⟨b, c, hb, hc, hstands⟩ := h.exists_alias_of_target hfollows
    simpa [name, hb, hc] using hstands
  obtain ⟨last, hreach, hback⟩ := hendless
  have hname : name index = a.name := by simp [name, ha]
  exact ⟨name last, hname ▸ ReflTransGen.lift name hstep _ _ hreach,
    TransGen.lift name hstep _ _ hback⟩

theorem endless_of_circle {index : Nat} {a : AliasState} (ha : m.aliases[index]? = some a)
    (hcircle : TransGen (Entry.Stands m.entries) a.name a.name) :
    Search.Endless ((m.push s).aliasTarget? (m.first s)) index := by
  have hstep : ∀ x y, Entry.Stands m.entries x y → (∃ z, Entry.Stands m.entries y z) →
      ∀ i b, m.aliases[i]? = some b → b.name = x → ∃ j c, m.aliases[j]? = some c ∧ c.name = y ∧
        Search.Follows ((m.push s).aliasTarget? (m.first s)) i j := by
    rintro x y hstands ⟨z, e, he, rfl, hkind, -⟩ i b hb rfl
    obtain ⟨j, c, hc, rfl⟩ := exists_alias he hkind
    exact ⟨j, c, hc, rfl, (h.aliasTarget?_iff hb).2 ⟨c, hc, hstands⟩⟩
  have hchain := Search.circle_of_follows hstep hcircle
  -- a circle of names is one of places, since no two definitions have one name
  have hlift : ∀ y, TransGen (fun x y => ∀ i b, m.aliases[i]? = some b → b.name = x →
      ∃ j c, m.aliases[j]? = some c ∧ c.name = y ∧
        Search.Follows ((m.push s).aliasTarget? (m.first s)) i j) a.name y →
      ∃ j c, m.aliases[j]? = some c ∧ c.name = y ∧
        TransGen (Search.Follows ((m.push s).aliasTarget? (m.first s))) index j := by
    intro y hy
    induction hy with
    | single hfirst =>
      obtain ⟨j, c, hc, hname, hfollows⟩ := hfirst index a ha rfl
      exact ⟨j, c, hc, hname, .single hfollows⟩
    | tail _ hlast ih =>
      obtain ⟨j, c, hc, hname, hfollows⟩ := ih
      obtain ⟨j', c', hc', hname', hfollows'⟩ := hlast j c hc hname
      exact ⟨j', c', hc', hname', hfollows.tail hfollows'⟩
  obtain ⟨j, c, hc, hname, hback⟩ := hlift _ hchain
  obtain ⟨hsame, -⟩ := h.entry_unique (entryAt?_push.2 (.inl (entryAt?_alias hc)))
    (entryAt?_push.2 (.inl (entryAt?_alias ha))) hname
  obtain rfl := Reference.alias.inj hsame
  exact ⟨j, .refl, hback⟩

theorem leadsOn_iff {index : Nat} (hindex : index < m.aliases.length) :
    (m.push s).leadsOn (m.first s) m.aliases.length index = true ↔
      Search.Endless ((m.push s).aliasTarget? (m.first s)) index := by
  have hbounded : ∀ i j, (m.push s).aliasTarget? (m.first s) i = some j →
      j ∈ Finset.range m.aliases.length := by
    intro i j htarget
    obtain ⟨-, b, -, hb, -⟩ := h.exists_alias_of_target htarget
    exact Finset.mem_range.2 (List.getElem?_eq_some_iff.1 hb).1
  have hleads := Search.leads_iff hbounded (Finset.mem_range.2 hindex)
  rwa [Finset.card_range, ← leadsOn_eq] at hleads

theorem circular?_iff {seen : List Reference}
    (hseen : Search.Explored ((m.push s).next (m.first s)) [.model m.models.length] [] seen) :
    (∃ n, (m.push s).circular? (m.first s) seen = some n) ↔
      ∃ n, Entry.Reaches (insert s.entry m.entries) s.name n ∧
        TransGen (Entry.Stands m.entries) n n := by
  rw [← Option.isSome_iff_exists, circular?, List.findSome?_isSome_iff]
  constructor
  · rintro ⟨r, hr, hsome⟩
    cases r with
    | model index => cases hsome
    | «alias» index =>
      dsimp only at hsome
      split at hsome
      next hleads =>
        obtain ⟨n, hn⟩ := Option.isSome_iff_exists.1 hsome
        obtain ⟨a, ha, -⟩ := Option.map_eq_some_iff.1 hn
        have hindex := (List.getElem?_eq_some_iff.1 ha).1
        obtain ⟨⟨start, hstart, hreach⟩, -⟩ := hseen.new _ hr List.not_mem_nil
        obtain rfl := List.mem_singleton.1 hstart
        obtain ⟨e, he, hnamed⟩ := h.reaches_of_steps hreach
        obtain rfl := Option.some.inj (he.symm.trans (entryAt?_push.2 (.inl (entryAt?_alias ha))))
        obtain ⟨last, hchain, hback⟩ := h.circle_of_endless ha ((h.leadsOn_iff hindex).1 hleads)
        refine ⟨last, hnamed.trans ?_, hback⟩
        exact ReflTransGen.mono (fun _ _ hstands => hstands.mentions.insert) _ _ hchain
      next => cases hsome
  · rintro ⟨n, hreach, hcircle⟩
    obtain ⟨-, ⟨e, he, rfl, hkind, -⟩, -⟩ := TransGen.head'_iff.1 hcircle
    obtain ⟨index, a, ha, rfl⟩ := exists_alias he hkind
    rcases h.seen_of_reaches hseen hreach with ⟨r, hr, e', he', hname⟩ | ⟨-, hclosed⟩
    · obtain ⟨rfl, -⟩ := h.entry_unique he' (entryAt?_push.2 (.inl (entryAt?_alias ha))) hname
      have hindex := (List.getElem?_eq_some_iff.1 ha).1
      have hleads := (h.leadsOn_iff hindex).2 (h.endless_of_circle ha hcircle)
      have hpushed : (m.push s).aliases = m.aliases := rfl
      refine ⟨_, hr, ?_⟩
      dsimp only
      rw [hpushed, if_pos hleads, ha]
      rfl
    · exact absurd hcircle (hclosed _ he .refl).2

end Makes

/-! Completion of a new model. -/

def references (m : Imported) : Finset Reference :=
  (Finset.range m.models.length).image .model ∪ (Finset.range m.aliases.length).image .alias

theorem mem_references {r : Reference} : r ∈ m.references ↔ ∃ e, m.entryAt? r = some e := by
  have hthere : ∀ {α : Type} {as : List α} {index : Nat},
      index < as.length ↔ ∃ a, as[index]? = some a := by
    intro α as index
    refine ⟨fun h => ⟨_, List.getElem?_eq_getElem h⟩, fun ⟨a, ha⟩ => ?_⟩
    exact (List.getElem?_eq_some_iff.1 ha).1
  cases r with
  | model index => simp [references, entryAt?, hthere]
  | «alias» index => simp [references, entryAt?, hthere]

theorem card_references_le (m : Imported) : m.references.card ≤ m.definitionCount := by
  refine (Finset.card_union_le _ _).trans (Nat.add_le_add ?_ ?_)
  · exact Finset.card_image_le.trans (Finset.card_range _).le
  · exact Finset.card_image_le.trans (Finset.card_range _).le

inductive Completes (m : Imported) (known : List Meaning) (s : ModelState) :
    Imported × Option Fault → Prop
  | waits {s' n} : m.Makes known s' → s'.entry = s.entry →
      ¬Entry.ClosesCircle m.entries s.entry →
        Completes m known s (m.push s', some (.undefined n))
  | circular {m' n} : Entry.ClosesCircle m.entries s.entry →
      Completes m known s (m', some (.circular n))
  | done {s'} : m.Makes known s' → s'.entry = s.entry →
      ¬Entry.ClosesCircle m.entries s.entry →
        Entry.Closed (insert s.entry m.entries) s.name →
          Completes m known s
            (m.push { s' with isComplete := true, undescribed := none }, none)

namespace Makes

theorem search_ends (h : m.Makes known s) :
    Search.Ends ((m.push s).next (m.first s)) [.model m.models.length] []
      (Search.visit ((m.push s).next (m.first s)) ((m.push s).definitionCount + 1) []
        (.model m.models.length)) := by
  refine Search.visit_ends (U := (m.push s).references) (fun r hr rs hrs r' hr' => ?_) _ [] _
    (mem_references.2 ⟨_, entryAt?_new⟩) ?_
  · obtain ⟨e, he⟩ := mem_references.1 hr
    have hleads := h.next_leadsTo he
    rw [hrs] at hleads
    exact mem_references.2 (hleads.exists_entry hr')
  · exact (Finset.card_filter_le _ _).trans ((card_references_le _).trans (Nat.le_succ _))

theorem withFields (h : m.Makes known s) {fields : List FieldState}
    (hrelated : List.Forall₂ (fun f f' => f'.hint = f.hint ∧ (m.push s).HasType f') s.fields
      fields) :
    ({ s with fields } : ModelState).entry = s.entry ∧ m.Makes known { s with fields } := by
  have hentry : ({ s with fields } : ModelState).entry = s.entry := by
    have hhints : fields.flatMap (fun f => f.hint.mention?.toList) =
        s.fields.flatMap fun f => f.hint.mention?.toList :=
      Outcome.flatMap_eq_of_forall₂ (hrelated.imp fun f f' hf => by rw [hf.1])
    rw [ModelState.entry, hhints]
    rfl
  have htypes : ∀ f ∈ fields, ∀ o, f.type = some o →
      o.IsType false ∧ (m.push s).Types f.hint o := by
    intro f hf o ho
    obtain ⟨f', -, -, o', ho', htype, hnamed⟩ := Outcome.exists_of_mem_right hrelated hf
    obtain rfl := Option.some.inj (ho.symm.trans ho')
    exact ⟨htype, hnamed⟩
  refine ⟨hentry, ?_⟩
  exact
    { whole := h.whole
      sound := h.sound.withFields fun f hf => by
        obtain ⟨f', hf', hhint, -⟩ := Outcome.exists_of_mem_right hrelated hf
        exact ⟨hhint ▸ h.sound.hints f' hf', fun o ho => (htypes f hf o ho).1⟩
      own := h.own
      fresh := h.fresh
      isIncomplete := h.isIncomplete
      types := fun f hf o ho => (htypes f hf o ho).2.of_push rfl }

theorem traceFields_eq (h : m.Makes known s) (htyped : ∀ f ∈ s.fields, (m.push s).HasType f) :
    traceFields ((m.push s).enter (m.first s) (m.push s).definitionCount)
        ⟨[.model m.models.length], none⟩ s.fields =
      (Search.visit ((m.push s).next (m.first s)) ((m.push s).definitionCount + 1) []
        (.model m.models.length)).map fun seen => ⟨seen, none⟩ := by
  have hsettled : ∀ sight, settledFields sight s.fields = .ok s.fields := by
    intro sight
    refine Outcome.mapM_eq_ok.2 (List.forall₂_same.2 fun f hf => ?_)
    obtain ⟨o, ho, -⟩ := htyped f hf
    simp only [settledField, ho]
  have hnext : (m.push s).next (m.first s) (.model m.models.length) =
      .ok (fieldLeaves s.fields) := by
    have hmodel : (m.push s).models[m.models.length]? = some s := List.getElem?_concat_length
    have hincomplete : ¬s.isComplete = true := by simp [h.isIncomplete]
    simp only [next, hmodel, if_neg hincomplete, hsettled]
    rfl
  have hleads := h.next_leadsTo entryAt?_new
  rw [hnext] at hleads
  rw [Imported.traceFields_eq htyped, Search.visit, if_neg List.not_mem_nil, hnext]
  exact foldlM_seen (fun r hr t => h.enter_eq _ t r (hleads.exists_entry hr)) _

theorem complete_completes (h : m.Makes known s) :
    m.Completes known s ((m.push s).complete m.models.length s) := by
  have hmodel : (m.push s).models[m.models.length]? = some s := List.getElem?_concat_length
  rcases h.settledFields_cases hmodel (.inr ⟨rfl, rfl⟩) with
    ⟨fields, hfields, hrelated, -⟩ | ⟨n, hn, hmissing⟩
  · obtain ⟨hentry, h'⟩ := h.withFields hrelated
    have htyped : ∀ f ∈ fields, (m.push { s with fields }).HasType f := by
      intro f hf
      obtain ⟨-, -, -, o, ho, htype, -⟩ := Outcome.exists_of_mem_right hrelated hf
      exact ⟨o, ho, htype, h'.types f hf o ho⟩
    have htrace := h'.traceFields_eq htyped
    have hends := h'.search_ends
    have hfirst : m.first { s with fields } = [(s.name, .model m.models.length s.name)] := rfl
    rw [hfirst] at htrace
    simp only [complete, hfields, setModel_push, htrace]
    cases hvisit : Search.visit ((m.push { s with fields }).next (m.first { s with fields }))
        ((m.push { s with fields }).definitionCount + 1) [] (.model m.models.length) with
    | error e =>
      rw [hvisit] at hends
      rw [← hfirst, hvisit]
      obtain ⟨start, hstart, r, hreach, hfault⟩ := hends
      obtain rfl := List.mem_singleton.1 hstart
      obtain ⟨⟨n, rfl⟩, hcircle⟩ := h'.not_closesCircle_of_error hreach hfault
      exact .waits h' hentry (hentry ▸ hcircle)
    | ok seen =>
      rw [hvisit] at hends
      rw [← hfirst, hvisit]
      have hready := fun e he hreach => h'.ready_of_seen (e := e) hends he hreach
      simp only [Except.map]
      cases hcircular : (m.push { s with fields }).circular? (m.first { s with fields }) seen with
      | some n =>
        have hcircle := (h'.circular?_iff hends).1 ⟨n, hcircular⟩
        exact .circular (hentry ▸ ⟨hready, hcircle⟩)
      | none =>
        have hcircle : ¬Entry.ClosesCircle m.entries ({ s with fields } : ModelState).entry := by
          intro hcloses
          obtain ⟨n, hn⟩ := (h'.circular?_iff hends).2 hcloses.circle
          cases hcircular.symm.trans hn
        have hclosed := Entry.closed_of_ready rfl hready hcircle
        exact .done h' hentry (hentry ▸ hcircle) (hentry ▸ hclosed)
  · simp only [complete, hn]
    refine .waits h rfl fun hcircle => hmissing ?_
    exact hcircle.ready s.entry (Set.mem_insert _ _) .refl

theorem whole_bind (h : m.Makes known s) {title : String} (htitle : s.name = title)
    {t : ModelState} (hname : t.name = title) (hfields : t.fields = s.fields)
    (hdescribed : t.undescribed = none)
    (hclosed : t.isComplete = true → Entry.Closed (insert s.entry m.entries) title) :
    ((m.push t).bind title (.model m.models.length title)).Whole known ∧
      ((m.push t).bind title (.model m.models.length title)).entries =
        insert s.entry m.entries := by
  subst htitle
  have hentry : t.entry = s.entry := by rw [ModelState.entry, hname, hfields]; rfl
  have hsound : t.Sound false known :=
    { title := hname ▸ h.sound.title
      hints := hfields ▸ h.sound.hints
      types := hfields ▸ h.sound.types
      described := hdescribed }
  have hadds : m.Adds ((m.push t).bind s.name (.model m.models.length s.name))
      (.model m.models.length) t.entry :=
    { fresh := by rw [hentry]; exact h.fresh
      old := fun r e hr => entryAt?_push.2 (.inl hr)
      new := entryAt?_new
      only := fun r e hr => entryAt?_push.1 hr
      names := fun n => by rw [hentry]; exact lookup_bind _ _ _ n }
  refine ⟨?_, hentry ▸ hadds.entries_eq⟩
  exact
    { toSound := (h.whole.toSound.push hsound).bind h.sound.title h.own (.model _ _)
      bound := hadds.bound h.whole
      finds := hadds.finds h.whole
      typed := by
        intro s' hs' f hf o ho
        rcases List.mem_append.1 hs' with hs' | hs'
        · exact hadds.types (h.whole.typed s' hs' f hf o ho)
        · obtain rfl := List.mem_singleton.1 hs'
          have htypes := (h.types f (hfields ▸ hf) o ho).of_push hname
          exact ⟨htypes.named, htypes.there⟩
      closed := by
        intro s' hs' hcomplete
        rcases List.mem_append.1 hs' with hs' | hs'
        · exact hadds.closed h.whole hs' hcomplete
        · obtain rfl := List.mem_singleton.1 hs'
          rw [hadds.entries_eq, hentry, hname]
          exact hclosed hcomplete }

end Makes

/-! Creation. -/

abbrev bodySight (m : Imported) (title : String) (names : List (String × Object)) : Sight :=
  m.sight.within ((title, .model m.models.length title) :: (names ++ m.classNames))

section

variable {title n : String} {names : List (String × Object)}

theorem looksUp_bodySight (hn : n ∉ fixedNames) (hunbound : names.lookup n = none) :
    m.LooksUp title (m.bodySight title names) n := by
  change List.lookup n ((title, _) :: ((names ++ m.classNames) ++ m.names)) = _
  by_cases hself : n = title
  · rw [if_pos hself, hself, List.lookup_cons_self]
  · rw [if_neg hself, lookup_cons_of_ne hself, List.append_assoc, List.lookup_append, hunbound,
      Option.none_or, List.lookup_append, lookup_classNames m hn, Option.none_or]

theorem Whole.shows_bodySight (hm : m.Whole known) (htitle : ¬Meaning.IsLibrary title)
    {k : Meaning} (hk : k ∈ known) (hunbound : names.lookup k.key = none) :
    (m.bodySight title names).Shows false k := by
  refine (hm.shows k hk).within ?_
  exact (passes_definition htitle (.model _ _) (hm.firm k hk)).append
    ((passes_of_unbound hunbound).append (passes_classNames m (hm.firm k hk)))

/-- A field has the type of its hint, or waits for it. -/
theorem Whole.exists_pendingField (hm : m.Whole known) (htitle : ¬Meaning.IsLibrary title)
    {f : FieldState}
    (hreads : ∃ ms ⊆ known, FieldHint ms f.hint ∧ ∀ k ∈ ms, names.lookup k.key = none)
    (hnone : f.type = none) (hdefault : ∀ o : Object, o.IsType false → (o == f.default) = false) :
    ∃ f', pendingField (m.bodySight title names) f = .ok f' ∧ f'.hint = f.hint ∧
      ∀ o, f'.type = some o →
        o.IsType false ∧ (m.push ⟨title, [], false, "", none⟩).Types f.hint o := by
  obtain ⟨ms, hms, hhint, hunbound⟩ := hreads
  have hcases := Resolves.cases_reads (m := m.push ⟨title, [], false, "", none⟩)
    (hhint.reads_ofHint fun k hk => hm.shows_bodySight htitle (hms hk) (hunbound k hk))
    fun n hn => by
      obtain ⟨r, hr, rfl⟩ := hhint.exists_schema hn
      have hfirm : IsFree (Text.normal r) := hm.firm _ (hms hr)
      exact hm.resolves_new (hms hr) (looksUp_bodySight hfirm.own.1 (hunbound _ hr))
  unfold pendingField
  rcases hcases with ⟨o, ho, htype, hnamed, -⟩ | ⟨n, hn, -⟩
  · refine ⟨{ f with type := some o }, by rw [ho]; simp [hdefault o htype], rfl, ?_⟩
    intro o' ho'
    obtain rfl := Option.some.inj ho'
    exact ⟨htype, hnamed⟩
  · exact ⟨f, by rw [hn], rfl, fun o ho => by cases hnone.symm.trans ho⟩

end

section

variable (hm : m.Whole known) {c : Class} {names : List (String × Object)} {hints : List Term}
  (hclass : c.IsPlain known m names hints)
include hclass

theorem exists_fieldStates :
    ∃ states, c.fields.mapM (fieldState names) = .ok states ∧ states.map (·.hint) = hints ∧
      ∀ f ∈ states, f.type = none ∧
        ∀ o : Object, o.IsType false → (o == f.default) = false := by
  have hstates : ∀ f ∈ c.fields, ∃ f', fieldState names f = .ok f' ∧
      term f.hint = .ok f'.hint ∧ f'.type = none ∧
        ∀ o : Object, o.IsType false → (o == f'.default) = false := by
    intro f hf
    obtain ⟨t, -, ht⟩ := Outcome.exists_ok_of_mem hclass.terms hf
    refine ⟨⟨f.name, f.alias', f.required, t, (names.lookup f.name).getD .null, none⟩, ?_, ht, rfl,
      hclass.defaults f hf⟩
    rw [fieldState, ht]
    rfl
  obtain ⟨states, hok, hrelated⟩ := Outcome.exists_mapM_eq_ok hstates
  refine ⟨states, hok, ?_, fun f hf => ?_⟩
  · have hterms : c.fields.mapM (fun f => term f.hint) = .ok (states.map (·.hint)) :=
      Outcome.mapM_eq_ok.2 (List.forall₂_map_right_iff.2 (hrelated.imp fun f f' hf => hf.1))
    exact (Except.ok.inj (hclass.terms.symm.trans hterms)).symm
  · obtain ⟨-, -, -, hf⟩ := Outcome.exists_of_mem_right hrelated hf
    exact hf

include hm

theorem exists_pendingFields :
    ∃ states fields, c.fields.mapM (fieldState names) = .ok states ∧
      pendingFields (m.bodySight c.title names) states = .ok fields ∧
      m.Makes known ⟨c.title, fields, false, "", none⟩ ∧
      (⟨c.title, fields, false, "", none⟩ : ModelState).entry = c.entryOf hints := by
  obtain ⟨states, hstates, rfl, hpending⟩ := exists_fieldStates hclass
  have htitle := hclass.title
  have hown := hclass.own
  have hfresh := hclass.fresh
  rw [Class.entryOf]
  generalize c.title = title at htitle hown hfresh ⊢
  have hfields : ∀ f ∈ states, ∃ f', pendingField (m.bodySight title names) f = .ok f' ∧
      f'.hint = f.hint ∧ ∀ o, f'.type = some o → o.IsType false ∧
        (m.push ⟨title, [], false, "", none⟩).Types f.hint o := by
    intro f hf
    obtain ⟨hnone, hdefault⟩ := hpending f hf
    exact hm.exists_pendingField htitle (hclass.reads f.hint (List.mem_map_of_mem hf)) hnone
      hdefault
  obtain ⟨fields, hok, hrelated⟩ := Outcome.exists_mapM_eq_ok hfields
  have hhints : fields.flatMap (fun f => f.hint.mention?.toList) =
      states.flatMap fun f => f.hint.mention?.toList :=
    Outcome.flatMap_eq_of_forall₂ (hrelated.imp fun f f' hf => by rw [hf.1])
  refine ⟨states, fields, hstates, hok, ?_, ?_⟩
  · exact
      { whole := hm
        sound :=
          { title := htitle
            hints := fun f hf => by
              obtain ⟨f', hf', hhint, -⟩ := Outcome.exists_of_mem_right hrelated hf
              obtain ⟨ms, hms, hreads, -⟩ := hclass.reads f'.hint (List.mem_map_of_mem hf')
              exact ⟨ms, hms, hhint ▸ hreads⟩
            types := fun f hf o ho => by
              obtain ⟨f', -, -, htype⟩ := Outcome.exists_of_mem_right hrelated hf
              exact (htype o ho).1
            described := rfl }
        own := hown
        fresh := hfresh
        isIncomplete := rfl
        types := fun f hf o ho => by
          obtain ⟨f', -, hhint, htype⟩ := Outcome.exists_of_mem_right hrelated hf
          exact hhint ▸ (htype o ho).2.of_push rfl }
  · rw [ModelState.entry, hhints, List.flatMap_map]

theorem create_cases (hprivate : privateField? names = none) :
    (Entry.ClosesCircle m.entries (c.entryOf hints) ∧
        ∃ n, m.create c names = .error (.circular n)) ∨
      ¬Entry.ClosesCircle m.entries (c.entryOf hints) ∧
        ∃ m', m.create c names = .ok m' ∧ m'.Whole known ∧
          m'.entries = insert (c.entryOf hints) m.entries := by
  obtain ⟨states, fields, hstates, hfields, hmakes, hentry⟩ := exists_pendingFields hm hclass
  have hcomplete := hmakes.complete_completes
  rw [← hentry]
  simp only [create, hprivate, hstates, hfields, Outcome.ok_bind]
  clear hfields hentry
  generalize c.title = title at hmakes hcomplete ⊢
  rw [Imported.push] at hcomplete
  generalize hresult : Imported.complete _ _ _ = result at hcomplete ⊢
  cases hcomplete with
  | circular hcircle => exact .inl ⟨hcircle, _, rfl⟩
  | @waits s' n hmakes' hentry' hcircle =>
    have hname : s'.name = title := congrArg Entry.name hentry'
    have hmodel : ((m.push s').bind title (.model m.models.length title)).models[
        m.models.length]? = some s' := List.getElem?_concat_length
    have hset : ((m.push s').bind title (.model m.models.length title)).setModel
        m.models.length { s' with missing := n } =
          (m.push { s' with missing := n }).bind title (.model m.models.length title) :=
      congrArg (·.bind title (.model m.models.length title)) (setModel_push m s' _)
    have hincomplete : ¬s'.isComplete = true := by simp [hmakes'.isIncomplete]
    have hbind := hmakes'.whole_bind hname (t := { s' with missing := n }) hname rfl
      hmakes'.sound.described fun hcomplete => absurd hcomplete hincomplete
    refine .inr ⟨hcircle, _, by simp only [hmodel, hset]; rfl, ?_⟩
    rwa [hentry'] at hbind
  | @done s' hmakes' hentry' hcircle hclosed =>
    have hname : s'.name = title := congrArg Entry.name hentry'
    have hbind := hmakes'.whole_bind hname
      (t := { s' with isComplete := true, undescribed := none }) hname rfl rfl
      fun _ => hentry' ▸ hclosed
    refine .inr ⟨hcircle, _, rfl, ?_⟩
    rwa [hentry'] at hbind

end

end Imported

theorem ModelLibrary.standard_documented : ModelLibrary.standard.Documented where
  toKeeps := ModelLibrary.standard_keeps
  private_field m c {names n} hprivate := by
    change m.create c names = _
    rw [Imported.create, hprivate]
  circular hm hclass hprivate hcircle := by
    rcases Imported.create_cases hm hclass hprivate with ⟨-, hcreate⟩ | ⟨hnone, -⟩
    · exact hcreate
    · exact absurd hcircle hnone
  made hm hclass hprivate hnone := by
    rcases Imported.create_cases hm hclass hprivate with ⟨hcircle, -⟩ | ⟨-, hcreate⟩
    · exact absurd hcircle hnone
    · exact hcreate
  completed hm hs hcomplete := hm.complete hs hcomplete
  described hs := hs.describe

end TypedClient.Target
