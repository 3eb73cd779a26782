import Mathlib.Data.List.ReduceOption
import Mathlib.Data.List.SplitBy
import TypedClient.Session

namespace TypedClient

namespace Watch

section

variable {m : Type → Type} [Monad m]

def lookOnce (time? : m (Option Int)) (act : m Unit) (last : Option Int) (wait : m Unit) :
    m (Option Int) := do
  wait
  let (seen, isChanged) := look last (← time?)
  if isChanged then act
  return seen

def lookAll (time? : m (Option Int)) (act : m Unit) : Option Int → List (m Unit) → m Unit
  | _, [] => pure ()
  | last, wait :: rest => do lookAll time? act (← lookOnce time? act last wait) rest

def watch (time? : m (Option Int)) (act : m Unit) (waits : List (m Unit)) : m Unit := do
  lookAll time? act (← time?) waits

end

end Watch

namespace Session

section

variable (platform : Platform) (args : Arguments) (last : Option Int)

def regenerateChanged : Run Unit := do
  note args (.changed (.ofString args.input))
  regenerate platform args

theorem poll_eq (edits : List Edit) :
    poll platform args last edits =
      Watch.lookOnce (modified? args) (regenerateChanged platform args) last
        (edits.forM edit) := by
  simp only [poll, Watch.lookOnce, regenerateChanged, bind_assoc]

theorem polls_eq (steps : List (List Edit)) :
    polls platform args last steps =
      Watch.lookAll (modified? args) (regenerateChanged platform args) last
        (steps.map (·.forM edit)) := by
  induction steps generalizing last with
  | nil => rfl
  | cons edits rest ih => simp only [polls, poll_eq, ih, List.map_cons, Watch.lookAll]

end

end Session

namespace Watch

/-- The times that are still to be found, how often was waited, and after which of the waits
something was done. -/
structure Record where
  ahead : List (Option Int)
  waits : Nat := 0
  acts : List Nat := []

namespace Record

def time? : StateM Record (Option Int) :=
  modifyGet fun r => (r.ahead.head?.join, { r with ahead := r.ahead.tail })

def wait : StateM Record Unit := modify fun r => { r with waits := r.waits + 1 }

def act : StateM Record Unit := modify fun r => { r with acts := r.acts ++ [r.waits] }

end Record

theorem run_lookOnce (last now : Option Int) (rest : List (Option Int)) (n : Nat)
    (acts : List Nat) :
    (lookOnce Record.time? Record.act last Record.wait).run ⟨now :: rest, n, acts⟩ =
      ((look last now).1,
        ⟨rest, n + 1, acts ++ if (look last now).2 then [n + 1] else []⟩) := by
  cases h : (look last now).2 with
  | false =>
    simp [lookOnce, Record.time?, Record.wait, h]
    rfl
  | true =>
    simp [lookOnce, Record.time?, Record.wait, Record.act, h]
    rfl

def placesFrom (first : Nat) (held : List Bool) : List Nat :=
  (held.zipIdx first).filterMap fun (isHeld, n) => if isHeld then some n else none

theorem placesFrom_cons (first : Nat) (isHeld : Bool) (rest : List Bool) :
    placesFrom first (isHeld :: rest) =
      (if isHeld then [first] else []) ++ placesFrom (first + 1) rest := by
  cases isHeld <;> simp [placesFrom]

theorem mem_placesFrom {first n : Nat} {held : List Bool} :
    n ∈ placesFrom first held ↔ ∃ i, n = i + first ∧ held[i]? = some true := by
  induction held generalizing first with
  | nil => simp [placesFrom]
  | cons isHeld rest ih =>
    rw [placesFrom_cons, List.mem_append, ih]
    constructor
    · rintro (h | ⟨i, rfl, h⟩)
      · cases isHeld <;> simp at h
        exact ⟨0, by omega, rfl⟩
      · exact ⟨i + 1, by omega, h⟩
    · rintro ⟨i, rfl, h⟩
      cases i with
      | zero =>
        simp at h
        simp [h]
      | succ i => exact .inr ⟨i, by omega, h⟩

theorem pairwise_placesFrom (first : Nat) (held : List Bool) :
    (placesFrom first held).Pairwise (· < ·) := by
  induction held generalizing first with
  | nil => simp [placesFrom]
  | cons isHeld rest ih =>
    have hlater : ∀ n ∈ placesFrom (first + 1) rest, first < n := by
      intro n hn
      obtain ⟨i, rfl, -⟩ := mem_placesFrom.1 hn
      omega
    cases isHeld with
    | false => simpa [placesFrom_cons] using ih (first + 1)
    | true => simpa [placesFrom_cons] using ⟨hlater, ih (first + 1)⟩

theorem changedLooks_eq (initial : Option Int) (seen : List (Option Int)) :
    changedLooks initial seen = placesFrom 1 (changes initial seen) := rfl

theorem length_placesFrom (first : Nat) (held : List Bool) :
    (placesFrom first held).length = held.count true := by
  induction held generalizing first with
  | nil => rfl
  | cons isHeld rest ih => cases isHeld <;> simp [placesFrom_cons, ih]

theorem run_lookAll (last : Option Int) (seen : List (Option Int)) (n : Nat) (acts : List Nat) :
    (lookAll Record.time? Record.act last (List.replicate seen.length Record.wait)).run
        ⟨seen, n, acts⟩ =
      ((), ⟨[], n + seen.length, acts ++ placesFrom (n + 1) (changes last seen)⟩) := by
  induction seen generalizing last n acts with
  | nil =>
    simp [lookAll, changes, placesFrom]
    rfl
  | cons now rest ih =>
    rw [List.length_cons, List.replicate_succ, lookAll, StateT.run_bind, run_lookOnce, changes,
      placesFrom_cons, ← List.append_assoc, ← Nat.add_assoc, Nat.add_right_comm]
    exact ih _ _ _

theorem run_watch (initial : Option Int) (seen : List (Option Int)) :
    (watch Record.time? Record.act (List.replicate seen.length Record.wait)).run
        ⟨initial :: seen, 0, []⟩ =
      ((), ⟨[], seen.length, changedLooks initial seen⟩) := by
  have h := run_lookAll initial seen 0 []
  rw [Nat.zero_add, Nat.zero_add, List.nil_append] at h
  exact h

def lastTime? (history : List (Option Int)) : Option Int := history.reduceOption.getLast?

def IsChange (history : List (Option Int)) (now : Option Int) : Prop :=
  ∃ time, now = some time ∧ lastTime? history ≠ some time

theorem lastTime?_concat (history : List (Option Int)) (now : Option Int) :
    lastTime? (history ++ [now]) = now.or (lastTime? history) := by
  cases now <;> simp [lastTime?, List.reduceOption_append]

theorem look_lastTime? (history : List (Option Int)) (now : Option Int) :
    (look (lastTime? history) now).1 = lastTime? (history ++ [now]) ∧
      ((look (lastTime? history) now).2 = true ↔ IsChange history now) := by
  rw [lastTime?_concat]
  cases now with
  | none => simp [look, IsChange]
  | some time =>
    by_cases h : lastTime? history = some time
    · simp [look, IsChange, h]
    · simp [look, IsChange, h]

theorem changes_lastTime? (history seen : List (Option Int)) (i : Nat) :
    (changes (lastTime? history) seen)[i]? = some true ↔
      ∃ now, seen[i]? = some now ∧ IsChange (history ++ seen.take i) now := by
  induction seen generalizing history i with
  | nil => simp [changes]
  | cons now rest ih =>
    obtain ⟨hlast, hchange⟩ := look_lastTime? history now
    cases i with
    | zero => simp [changes, hchange]
    | succ i =>
      rw [changes, hlast, List.getElem?_cons_succ, ih, List.append_assoc, List.getElem?_cons_succ]
      rfl

def runs (times : List Int) : List (List Int) := times.splitBy (· == ·)

theorem length_splitBy_loop (time : Int) (rest run : List Int) (found : List (List Int)) :
    (List.splitBy.loop (· == ·) rest time run found).length =
      found.length + (runs (time :: rest)).length := by
  induction rest generalizing time run found with
  | nil => simp [runs, List.splitBy, List.splitBy.loop]
  | cons next rest ih =>
    rw [runs, List.splitBy, List.splitBy.loop, List.splitBy.loop]
    split
    next => simp only [ih, List.length_nil, Nat.zero_add]
    next => simp only [ih, List.length_cons, List.length_nil, Nat.zero_add, Nat.add_assoc]

theorem length_runs_cons_self (time : Int) (rest : List Int) :
    (runs (time :: time :: rest)).length = (runs (time :: rest)).length := by
  rw [runs, List.splitBy, List.splitBy.loop, beq_self_eq_true]
  simp [length_splitBy_loop]

theorem length_runs_cons_of_ne {time next : Int} (h : time ≠ next) (rest : List Int) :
    (runs (time :: next :: rest)).length = 1 + (runs (next :: rest)).length := by
  rw [runs, List.splitBy, List.splitBy.loop, beq_false_of_ne h]
  simp [length_splitBy_loop]

theorem count_changes (last : Option Int) (seen : List (Option Int)) :
    (changes last seen).count true + last.toList.length =
      (runs (last :: seen).reduceOption).length := by
  induction seen generalizing last with
  | nil => cases last <;> rfl
  | cons now rest ih =>
    cases now with
    | none =>
      have hskip : (last :: none :: rest).reduceOption = (last :: rest).reduceOption := by
        cases last <;> simp
      simpa [changes, look, hskip] using ih last
    | some time =>
      have hnew := ih (some time)
      cases last with
      | none => simpa [changes, look] using hnew
      | some known =>
        by_cases h : known = time
        · subst h
          simpa [changes, look, length_runs_cons_self] using hnew
        · simp [changes, look, h, length_runs_cons_of_ne h] at hnew ⊢
          omega

/-- A watch acts exactly at the looks that find another time than was found last, in their order,
and so once for every run of equal times, except for that of a file that is there at first. It looks
as often as it waits. -/
theorem watch_exact (initial : Option Int) (seen : List (Option Int)) :
    (watch Record.time? Record.act (List.replicate seen.length Record.wait)).run
        ⟨initial :: seen, 0, []⟩ =
      ((), ⟨[], seen.length, changedLooks initial seen⟩) ∧
    (changedLooks initial seen).Pairwise (· < ·) ∧
    (∀ n, n ∈ changedLooks initial seen ↔
      ∃ i now, n = i + 1 ∧ seen[i]? = some now ∧ IsChange (initial :: seen.take i) now) ∧
    (changedLooks initial seen).length + initial.toList.length =
      (runs (initial :: seen).reduceOption).length := by
  have hinitial : lastTime? [initial] = initial := by cases initial <;> rfl
  refine ⟨run_watch initial seen, ?_, fun n => ?_, ?_⟩
  · rw [changedLooks_eq]
    exact pairwise_placesFrom 1 _
  · have hchanges := changes_lastTime? [initial] seen
    rw [hinitial] at hchanges
    rw [changedLooks_eq, mem_placesFrom]
    simp only [hchanges, exists_and_left, List.singleton_append]
  · rw [changedLooks_eq, length_placesFrom]
    exact count_changes initial seen

end Watch

end TypedClient
