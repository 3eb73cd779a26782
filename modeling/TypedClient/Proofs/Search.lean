import Mathlib.Data.Finset.Card
import Mathlib.Logic.Relation

namespace TypedClient.Search

open Relation

section

variable {α ε : Type} [DecidableEq α]

def visit (next : α → Except ε (List α)) : Nat → List α → α → Except ε (List α)
  | 0, seen, _ => .ok seen
  | depth + 1, seen, a =>
    if a ∈ seen then .ok seen
    else next a >>= fun bs => bs.foldlM (visit next depth) (a :: seen)

def Step (next : α → Except ε (List α)) (a b : α) : Prop := ∃ bs, next a = .ok bs ∧ b ∈ bs

/-- What has been seen after these were asked for: with them all that they lead to. -/
structure Explored (next : α → Except ε (List α)) (as seen seen' : List α) : Prop where
  kept : seen ⊆ seen'
  asked : as ⊆ seen'
  new : ∀ b ∈ seen', b ∉ seen →
    (∃ a ∈ as, ReflTransGen (Step next) a b) ∧ ∃ bs, next b = .ok bs ∧ bs ⊆ seen'

def Ends (next : α → Except ε (List α)) (as seen : List α) : Except ε (List α) → Prop
  | .ok seen' => Explored next as seen seen'
  | .error e => ∃ a ∈ as, ∃ b, ReflTransGen (Step next) a b ∧ next b = .error e

variable {next : α → Except ε (List α)} {U : Finset α}

theorem Explored.trans {a : α} {rest seen seen₁ seen₂ : List α}
    (h : Explored next [a] seen seen₁) (h' : Explored next rest seen₁ seen₂) :
    Explored next (a :: rest) seen seen₂ where
  kept := List.Subset.trans h.kept h'.kept
  asked := List.cons_subset.2 ⟨h'.kept (h.asked List.mem_cons_self), h'.asked⟩
  new b hb hnew := by
    by_cases hfirst : b ∈ seen₁
    · obtain ⟨⟨a', ha', hreach⟩, bs, hbs, hsub⟩ := h.new b hfirst hnew
      obtain rfl := List.mem_singleton.1 ha'
      exact ⟨⟨a', List.mem_cons_self, hreach⟩, bs, hbs, List.Subset.trans hsub h'.kept⟩
    · obtain ⟨⟨a', ha', hreach⟩, hnext⟩ := h'.new b hb hfirst
      exact ⟨⟨a', List.mem_cons_of_mem _ ha', hreach⟩, hnext⟩

theorem foldlM_ends {f : List α → α → Except ε (List α)} {depth : Nat}
    (hf : ∀ seen, ∀ a ∈ U, (U.filter (· ∉ seen)).card ≤ depth → Ends next [a] seen (f seen a)) :
    ∀ as seen, (∀ a ∈ as, a ∈ U) → (U.filter (· ∉ seen)).card ≤ depth →
      Ends next as seen (as.foldlM f seen) := by
  intro as
  induction as with
  | nil =>
    exact fun seen _ _ =>
      ⟨List.Subset.refl _, List.nil_subset _, fun b hb hnew => absurd hb hnew⟩
  | cons a rest ih =>
    intro seen has hdepth
    have hfirst := hf seen a (has a List.mem_cons_self) hdepth
    rw [List.foldlM_cons]
    cases hresult : f seen a with
    | error e =>
      rw [hresult] at hfirst
      obtain ⟨a', ha', b, hb⟩ := hfirst
      obtain rfl := List.mem_singleton.1 ha'
      exact ⟨a', List.mem_cons_self, b, hb⟩
    | ok seen₁ =>
      rw [hresult] at hfirst
      have hfewer : (U.filter (· ∉ seen₁)).card ≤ depth := by
        refine (Finset.card_le_card fun b hb => ?_).trans hdepth
        obtain ⟨hmem, hnew⟩ := Finset.mem_filter.1 hb
        exact Finset.mem_filter.2 ⟨hmem, fun hseen => hnew (hfirst.kept hseen)⟩
      have hrest := ih seen₁ (fun a' ha' => has a' (List.mem_cons_of_mem _ ha')) hfewer
      change Ends next (a :: rest) seen (rest.foldlM f seen₁)
      cases hlast : rest.foldlM f seen₁ with
      | error e =>
        rw [hlast] at hrest
        obtain ⟨a', ha', b, hb⟩ := hrest
        exact ⟨a', List.mem_cons_of_mem _ ha', b, hb⟩
      | ok seen₂ =>
        rw [hlast] at hrest
        exact hfirst.trans hrest

theorem visit_ends (hU : ∀ a ∈ U, ∀ bs, next a = .ok bs → ∀ b ∈ bs, b ∈ U) (depth : Nat) :
    ∀ seen, ∀ a ∈ U, (U.filter (· ∉ seen)).card ≤ depth →
      Ends next [a] seen (visit next depth seen a) := by
  have hseen : ∀ seen a, a ∈ seen → Ends next [a] seen (.ok seen) := fun seen a ha =>
    ⟨List.Subset.refl _, by simpa using ha, fun b hb hnew => absurd hb hnew⟩
  -- on the depth, which bounds how much there is that has not been seen
  induction depth with
  | zero =>
    intro seen a ha hdepth
    refine hseen seen a ?_
    by_contra hnew
    have hempty := Finset.card_eq_zero.1 (Nat.le_zero.1 hdepth)
    exact Finset.notMem_empty a (hempty ▸ Finset.mem_filter.2 ⟨ha, hnew⟩)
  | succ depth ih =>
    intro seen a ha hdepth
    rw [visit]
    split
    next hmem => exact hseen seen a hmem
    next hnew =>
      cases hnext : next a with
      | error e => exact ⟨a, List.mem_singleton_self a, a, .refl, hnext⟩
      | ok bs =>
        have hfewer : (U.filter (· ∉ a :: seen)).card ≤ depth := by
          have hsub : U.filter (· ∉ a :: seen) ⊂ U.filter (· ∉ seen) := by
            refine Finset.ssubset_iff_subset_ne.2 ⟨fun b hb => ?_, fun heq => ?_⟩
            · obtain ⟨hmem, hb⟩ := Finset.mem_filter.1 hb
              exact Finset.mem_filter.2 ⟨hmem, fun h => hb (List.mem_cons_of_mem _ h)⟩
            · have hmem := heq.symm ▸ Finset.mem_filter.2 ⟨ha, hnew⟩
              exact (Finset.mem_filter.1 hmem).2 List.mem_cons_self
          have hlt := Finset.card_lt_card hsub
          omega
        have hrest := foldlM_ends ih bs (a :: seen) (hU a ha bs hnext) hfewer
        change Ends next [a] seen (bs.foldlM (visit next depth) (a :: seen))
        cases hlast : bs.foldlM (visit next depth) (a :: seen) with
        | error e =>
          rw [hlast] at hrest
          obtain ⟨b, hb, b', hreach, herror⟩ := hrest
          exact ⟨a, List.mem_singleton_self a, b', .head ⟨bs, hnext, hb⟩ hreach, herror⟩
        | ok seen' =>
          rw [hlast] at hrest
          refine ⟨fun b hb => hrest.kept (List.mem_cons_of_mem _ hb), ?_, fun b hb hfresh => ?_⟩
          · simpa using hrest.kept List.mem_cons_self
          · by_cases hself : b = a
            · subst hself
              exact ⟨⟨b, List.mem_singleton_self b, .refl⟩, bs, hnext, hrest.asked⟩
            · obtain ⟨⟨b', hb', hreach⟩, hafter⟩ := hrest.new b hb (by simp [hself, hfresh])
              exact ⟨⟨a, List.mem_singleton_self a, .head ⟨bs, hnext, hb'⟩ hreach⟩, hafter⟩

end

section

variable {α : Type} {next : α → Option α}

def leads (next : α → Option α) : Nat → α → Bool
  | 0, _ => true
  | steps + 1, a =>
    match next a with
    | some b => leads next steps b
    | none => false

def Follows (next : α → Option α) (a b : α) : Prop := next a = some b

/-- The chain from here has no end: it comes back to where it was. -/
def Endless (next : α → Option α) (a : α) : Prop :=
  ∃ b, ReflTransGen (Follows next) a b ∧ TransGen (Follows next) b b

theorem Endless.exists_next {a : α} (h : Endless next a) :
    ∃ b, next a = some b ∧ Endless next b := by
  obtain ⟨b, hreach, hcircle⟩ := h
  rcases hreach.cases_head with rfl | ⟨c, hstep, hrest⟩
  · obtain ⟨c, hstep, hback⟩ := TransGen.head'_iff.1 hcircle
    exact ⟨c, hstep, a, hback, hcircle⟩
  · exact ⟨c, hstep, b, hrest, hcircle⟩

theorem Endless.leads {a : α} (h : Endless next a) (steps : Nat) : leads next steps a = true := by
  induction steps generalizing a with
  | zero => rfl
  | succ steps ih =>
    obtain ⟨b, hnext, hb⟩ := h.exists_next
    rw [Search.leads, hnext]
    exact ih hb

open Classical in
theorem steps_lt_of_leads {U : Finset α} (hU : ∀ a b, next a = some b → b ∈ U) {a : α} (ha : a ∈ U)
    (hends : ¬Endless next a) {steps : Nat} (h : leads next steps a = true) :
    steps < (U.filter (ReflTransGen (Follows next) a)).card := by
  induction steps generalizing a with
  | zero => exact Finset.card_pos.2 ⟨a, Finset.mem_filter.2 ⟨ha, .refl⟩⟩
  | succ steps ih =>
    rw [Search.leads] at h
    split at h
    next b hnext =>
      have hb : ¬Endless next b := by
        rintro ⟨c, hreach, hcircle⟩
        exact hends ⟨c, .head hnext hreach, hcircle⟩
      have hrest := ih (hU a b hnext) hb h
      refine Nat.lt_of_le_of_lt hrest (Finset.card_lt_card ?_)
      refine Finset.ssubset_iff_subset_ne.2 ⟨fun c hc => ?_, fun heq => ?_⟩
      · obtain ⟨hmem, hreach⟩ := Finset.mem_filter.1 hc
        exact Finset.mem_filter.2 ⟨hmem, .head hnext hreach⟩
      · have hmem := heq.symm ▸ Finset.mem_filter.2 ⟨ha, ReflTransGen.refl⟩
        have hback : TransGen (Follows next) a a := .head' hnext (Finset.mem_filter.1 hmem).2
        exact hends ⟨a, .refl, hback⟩
    next => cases h

theorem leads_iff {U : Finset α} (hU : ∀ a b, next a = some b → b ∈ U) {a : α} (ha : a ∈ U) :
    leads next U.card a = true ↔ Endless next a := by
  classical
  refine ⟨fun h => by_contra fun hends => ?_, fun h => h.leads _⟩
  have hlt := steps_lt_of_leads hU ha hends h
  have hle := Finset.card_filter_le U (ReflTransGen (Follows next) a)
  omega

theorem circle_of_follows {r r' : α → α → Prop} (h : ∀ a b, r a b → (∃ c, r b c) → r' a b) {a : α}
    (hcircle : TransGen r a a) : TransGen r' a a := by
  have hlift : ∀ {b c : α}, TransGen r b c → (∃ d, r c d) → TransGen r' b c := by
    intro b c hchain
    induction hchain using TransGen.head_induction_on with
    | single hstep => exact fun hafter => .single (h _ _ hstep hafter)
    | head hstep hrest ih =>
      intro hafter
      obtain ⟨d, hd, -⟩ := TransGen.head'_iff.1 hrest
      exact .head (h _ _ hstep ⟨d, hd⟩) (ih hafter)
  obtain ⟨b, hb, -⟩ := TransGen.head'_iff.1 hcircle
  exact hlift hcircle ⟨b, hb⟩

end

end TypedClient.Search
