import TypedClient.Proofs.Completion
import TypedClient.Target.Imported.Creation

namespace TypedClient.Target

variable {late : Bool} {known : List Meaning} {m : Imported}

theorem passes_definition {name : String} {o : Object} (hname : ¬Meaning.IsLibrary name)
    (ho : o.IsPlain late) {k : Meaning} (hk : IsFirm k) : Sight.Passes late [(name, o)] k := by
  cases k with
  | schema r =>
    intro p hp
    obtain ⟨-, rfl⟩ : Text.normal r = name ∧ p = o := by simpa using mem_of_lookup hp
    exact ho
  | imported q =>
    have hne : q ≠ name := by
      rintro rfl
      exact hname hk
    exact lookup_cons_of_ne hne _ _
  | builtin b =>
    have hne : b ≠ name := by
      rintro rfl
      exact hname hk
    exact lookup_cons_of_ne hne _ _

theorem lookup_classNames (m : Imported) {n : String} (h : n ∉ fixedNames) :
    m.classNames.lookup n = none := by
  have hfixed : m.classNames.map (·.1) ⊆ fixedNames := by
    simp [Imported.classNames, fixedNames]
  exact lookup_of_not_mem fun hmem => h (hfixed hmem)

theorem passes_classNames (m : Imported) {k : Meaning} (hk : IsFirm k) :
    Sight.Passes late m.classNames k :=
  passes_of_unbound (lookup_classNames m hk.key_not_mem)

theorem shows_hintSight {k : Meaning} (h : m.sight.Shows late k) (hk : IsFirm k) {name : String}
    (hname : ¬Meaning.IsLibrary name) (index : Nat) {first : List (String × Object)}
    (hfirst : Sight.Passes late first k) : (m.hintSight index name first).Shows late k := by
  refine h.within ?_
  exact (passes_definition hname (.model index name) hk).append
    ((passes_classNames m hk).append hfirst)

def FieldsSound (late : Bool) (known : List Meaning) (fields : List FieldState) : Prop :=
  ∀ f ∈ fields, (∃ ms ⊆ known, FieldHint ms f.hint) ∧ ∀ o, f.type = some o → o.IsType late

theorem ModelState.Sound.fieldsSound {s : ModelState} (h : s.Sound late known) :
    FieldsSound late known s.fields :=
  fun f hf => ⟨h.hints f hf, h.types f hf⟩

theorem ModelState.Sound.withFields {s : ModelState} (h : s.Sound late known)
    {fields : List FieldState} (hfields : FieldsSound late known fields) :
    ({ s with fields } : ModelState).Sound late known where
  title := h.title
  hints f hf := (hfields f hf).1
  types f hf := (hfields f hf).2
  described := h.described

theorem settledFields_settles {sight : Sight} {fields : List FieldState}
    (hshows : ∀ k ∈ known, sight.Shows late k) (hfields : FieldsSound late known fields) :
    Settles late (FieldsSound late known) (Imported.settledFields sight fields) := by
  refine Settles.mapM fun f hf => ?_
  obtain ⟨⟨ms, hms, hhint⟩, htype⟩ := hfields f hf
  unfold Imported.settledField
  cases hknown : f.type with
  | some o => exact ⟨⟨ms, hms, hhint⟩, htype⟩
  | none =>
    have hreads := hhint.reads_ofHint fun k hk => hshows k (hms hk)
    refine hreads.settles.bind fun o ho => ?_
    refine ⟨⟨ms, hms, hhint⟩, fun p hp => ?_⟩
    obtain rfl := Option.some.inj hp
    exact ho

namespace Imported

section

variable {enter : Trace → Reference → Outcome Trace}
  (henter : ∀ t r, Settles late (·.undescribed = t.undescribed) (enter t r))
include henter

theorem trace_plain {o : Object} (ho : o.IsPlain late) :
    ∀ t, Settles late (·.undescribed = t.undescribed) (trace enter t o) := by
  induction ho with
  | model index name => exact fun t => henter t _
  | typeAlias index name => exact fun t => henter t _
  | client name hlate => exact fun t => .noSchema hlate
  | @builtin b hb =>
    intro t
    have hall : ∀ b ∈ Warning.builtinTypes, b ≠ "type" ∧ schemaBuiltins.contains b = true := by
      decide
    rw [trace, if_neg (hall b hb).1, if_pos (hall b hb).2]
    exact rfl
  | @library q n hq =>
    intro t
    have hall : ∀ q ∈ libraryTypes, schemaClasses.contains q = true := by decide
    rw [trace, if_pos (hall _ hq)]
    exact rfl
  | @list o _ ih =>
    intro t
    have hlist : schemaBuiltins.contains "list" = true := rfl
    rw [trace, if_pos hlist]
    refine (ih t).bind fun after hafter => ?_
    exact hafter

theorem trace_type {o : Object} (ho : o.IsType late) (t : Trace) :
    Settles late (·.undescribed = t.undescribed) (trace enter t o) := by
  cases ho with
  | plain ho => exact trace_plain henter ho t
  | @optional o ho =>
    have hsingle : (([o, .null] : List Object).filter (!Object.isNull ·)).length ≤ 1 := by
      have hnull : Object.isNull .null = true := rfl
      simp [ho.isNull_eq, hnull]
    have hfirst : Settles late (·.undescribed = t.undescribed)
        (traceFirst enter [o, .null].length t [o, .null]) := by
      refine (trace_plain henter ho t).bind fun after hafter => ?_
      exact hafter
    rw [trace]
    refine hfirst.bind fun after hafter => ?_
    rw [if_pos hsingle]
    exact hafter

theorem traceFirst_settles {os : List Object} (hos : ∀ o ∈ os, o.IsType late) :
    ∀ count t, Settles late (·.undescribed = t.undescribed) (traceFirst enter count t os) := by
  induction os with
  | nil => exact fun count t => rfl
  | cons o rest ih =>
    intro count t
    rw [traceFirst]
    split
    · exact rfl
    · refine (trace_type henter (hos o (by simp)) t).bind fun after hafter => ?_
      refine (ih (fun p hp => hos p (by simp [hp])) (count - 1) after).mono fun last hlast => ?_
      exact hlast.trans hafter

theorem traceFields_settles {fields : List FieldState} (hfields : FieldsSound late known fields)
    (t : Trace) : Settles late (·.undescribed = t.undescribed) (traceFields enter t fields) := by
  refine traceFirst_settles henter (fun o ho => ?_) _ t
  obtain ⟨f, hf, htype⟩ := List.mem_filterMap.1 ho
  exact (hfields f hf).2 o htype

end

theorem Sound.enter_settles (hm : m.Sound late known) {first : List (String × Object)}
    (hfirst : ∀ k ∈ known, Sight.Passes late first k) (depth : Nat) :
    ∀ t r, Settles late (·.undescribed = t.undescribed) (m.enter first depth t r) := by
  induction depth with
  | zero => exact fun t r => rfl
  | succ depth ih =>
    intro t r
    rw [enter.eq_def]
    split
    next => exact rfl
    next => exact rfl
    next depth' index heq _ =>
      obtain rfl := Nat.succ.inj heq
      split
      · exact rfl
      next s hs =>
        have hsound := hm.models s (List.mem_of_getElem? hs)
        dsimp only
        split
        · rw [hsound.described]
          exact rfl
        · refine (settledFields_settles (fun k hk => ?_) hsound.fieldsSound).bind
            fun fields hfields => ?_
          · exact shows_hintSight (hm.shows k hk) (hm.firm k hk) hsound.title index (hfirst k hk)
          · exact traceFields_settles ih hfields _
    next depth' index heq _ =>
      obtain rfl := Nat.succ.inj heq
      split
      · exact rfl
      next a ha =>
        obtain ⟨ms, hms, hhint⟩ := hm.aliases a (List.mem_of_getElem? ha)
        have hshows : ∀ k ∈ ms, m.sight.Shows late k := fun k hk => hm.shows k (hms hk)
        rw [hhint.ofAlias_eq hshows]
        exact (hhint.reads hshows).settles.bind fun o ho => trace_plain ih ho _

theorem Sound.setModel {s : ModelState} (hm : m.Sound late known) (hs : s.Sound late known)
    (index : Nat) : (m.setModel index s).Sound late known where
  firm := hm.firm
  shows := hm.shows
  own := hm.own
  aliases := hm.aliases
  models t ht := by
    rcases List.mem_or_eq_of_mem_set ht with ht | rfl
    · exact hm.models t ht
    · exact hs

theorem Sound.complete (hm : m.Sound true known) {index : Nat} {s : ModelState}
    (hs : m.models[index]? = some s) {m' : Imported} {fault : Option Fault}
    (h : m.complete index s = (m', fault)) :
    m'.Sound true known ∧ ∀ e, fault = some e → e.spoilsModel = true := by
  have hspoils : ∀ {e : Fault}, e.Waits true → e.spoilsModel = true := by
    intro e he
    cases he <;> rfl
  have hsound := hm.models s (List.mem_of_getElem? hs)
  have hpasses : ∀ k ∈ known, Sight.Passes true [(s.name, .model index s.name)] k := fun k hk =>
    passes_definition hsound.title (.model index s.name) (hm.firm k hk)
  have hnothing : ∀ k, Sight.Passes true [] k := fun k => passes_of_unbound rfl
  have hsettles := settledFields_settles (fun k hk => shows_hintSight (hm.shows k hk)
    (hm.firm k hk) hsound.title index (hnothing k)) hsound.fieldsSound
  unfold Imported.complete at h
  split at h
  next e he =>
    cases h
    rw [he] at hsettles
    refine ⟨hm, fun e' he' => ?_⟩
    obtain rfl := Option.some.inj he'
    exact hspoils hsettles
  next fields hfields =>
    rw [hfields] at hsettles
    have hsound' := hsound.withFields hsettles
    have hm' := hm.setModel hsound' index
    have htrace := traceFields_settles
      (hm'.enter_settles hpasses (m.setModel index { s with fields }).definitionCount)
      hsettles ⟨[.model index], none⟩
    dsimp only at h
    split at h
    next e he =>
      cases h
      rw [he] at htrace
      refine ⟨hm', fun e' he' => ?_⟩
      obtain rfl := Option.some.inj he'
      exact hspoils htrace
    next t ht =>
      rw [ht] at htrace
      split at h
      next =>
        cases h
        refine ⟨hm', fun e' he' => ?_⟩
        obtain rfl := Option.some.inj he'
        rfl
      next =>
        cases h
        refine ⟨hm'.setModel ?_ index, by simp⟩
        exact ⟨hsound'.title, hsound'.hints, hsound'.types, htrace⟩

end Imported

theorem ModelState.Sound.describe {s : ModelState} (hs : s.Sound late known) :
    ∃ shape, s.describe = .ok shape := by
  rw [ModelState.describe, hs.described]
  exact ⟨_, rfl⟩

end TypedClient.Target
