namespace TypedClient

/-- So many rounds lead from the first state to the second, from which there is no step. -/
inductive Rounds {σ : Type} (step : σ → Option σ) : σ → Nat → σ → Prop
  | stop {s : σ} : step s = none → Rounds step s 0 s
  | next {s t last : σ} {n : Nat} :
      step s = some t → Rounds step t n last → Rounds step s (n + 1) last

namespace Rounds

variable {σ : Type} {step : σ → Option σ} {s last last' : σ} {n n' : Nat}

theorem step_last (h : Rounds step s n last) : step last = none := by
  induction h with
  | stop hstop => exact hstop
  | next _ _ ih => exact ih

theorem unique (h : Rounds step s n last) (h' : Rounds step s n' last') :
    n' = n ∧ last' = last := by
  induction h generalizing n' with
  | stop hstop =>
    cases h' with
    | stop => exact ⟨rfl, rfl⟩
    | next hnext => cases hstop.symm.trans hnext
  | next hnext _ ih =>
    cases h' with
    | stop hstop => cases hnext.symm.trans hstop
    | next hnext' hrest =>
      cases hnext.symm.trans hnext'
      obtain ⟨rfl, rfl⟩ := ih hrest
      exact ⟨rfl, rfl⟩

theorem iff_eq (h : Rounds step s n last) :
    Rounds step s n' last' ↔ n' = n ∧ last' = last := by
  refine ⟨h.unique, ?_⟩
  rintro ⟨rfl, rfl⟩
  exact h

theorem keeps {α : Type} {f : σ → α} (hstep : ∀ s t, step s = some t → f t = f s)
    (h : Rounds step s n last) : f last = f s := by
  induction h with
  | stop => rfl
  | next hnext _ ih => rw [ih, hstep _ _ hnext]

theorem add_size {size : σ → Nat} (hstep : ∀ s t, step s = some t → size t + 1 = size s)
    (h : Rounds step s n last) : n + size last = size s := by
  induction h with
  | stop => exact Nat.zero_add _
  | next hnext _ ih =>
    have := hstep _ _ hnext
    omega

theorem exists_of_size_lt {size : σ → Nat} (hstep : ∀ s t, step s = some t → size t < size s)
    (s : σ) : ∃ n last, Rounds step s n last := by
  induction hsize : size s using Nat.strongRecOn generalizing s with
  | ind m ih =>
    subst hsize
    cases hnext : step s with
    | none => exact ⟨0, s, .stop hnext⟩
    | some t =>
      obtain ⟨n, last, h⟩ := ih (size t) (hstep s t hnext) t rfl
      exact ⟨n + 1, last, .next hnext h⟩

end Rounds

end TypedClient
