import Mathlib.Data.List.Nodup
import TypedClient.Document.Reference

/-!
Following pointers ends where the chain of objects ends, and reports a circle exactly if the chain
has no end. No pointer is looked up twice.
-/

namespace TypedClient

/-! The pointers on a chain are those of the first object and of the document. -/

namespace Value

theorem exists_mem_of_lookup {key : String} {entries : List Entry} {v : Value}
    (h : lookup key entries = some v) : ∃ k, (k, v) ∈ entries := by
  induction entries with
  | nil => cases h
  | cons entry rest ih =>
    obtain ⟨k, w⟩ := entry
    rw [lookup] at h
    split at h
    next =>
      obtain rfl := Option.some.inj h
      exact ⟨k, List.mem_cons_self⟩
    next =>
      obtain ⟨k', hmem⟩ := ih h
      exact ⟨k', List.mem_cons_of_mem _ hmem⟩

theorem pointers_subset_entryPointers {k : Scalar} {v : Value} {entries : List Entry}
    (h : (k, v) ∈ entries) : v.pointers ⊆ entryPointers entries := by
  induction entries with
  | nil => cases h
  | cons entry rest ih =>
    obtain ⟨k', w⟩ := entry
    rw [entryPointers]
    rcases List.mem_cons.1 h with heq | hmem
    · cases heq
      exact List.subset_append_left _ _
    · exact List.subset_append_of_subset_right _ (ih hmem)

theorem pointers_eq {v : Value} {entries : List Entry} (h : v.entries? = some entries) :
    v.pointers = (pointerOf entries).toList ++ entryPointers entries := by
  fun_induction entries? v with
  | case1 es =>
    obtain rfl := Option.some.inj h
    rw [pointers]
  | case2 name v ih => rw [pointers, ih h]
  | case3 => cases h

theorem pointers_get?_subset {key : String} {v w : Value} (h : v.get? key = some w) :
    w.pointers ⊆ v.pointers := by
  obtain ⟨entries, hentries, hlookup⟩ := Option.bind_eq_some_iff.1 h
  obtain ⟨k, hmem⟩ := exists_mem_of_lookup hlookup
  rw [pointers_eq hentries]
  exact List.subset_append_of_subset_right _ (pointers_subset_entryPointers hmem)

end Value

namespace Pointer

theorem pointers_walk_subset {keys : List String} {v w : Value} (h : walk keys v = some w) :
    w.pointers ⊆ v.pointers := by
  induction keys generalizing v with
  | nil =>
    obtain rfl := Option.some.inj h
    exact List.Subset.refl _
  | cons key rest ih =>
    obtain ⟨u, hget, hwalk⟩ := Option.bind_eq_some_iff.1 h
    exact List.Subset.trans (ih hwalk) (Value.pointers_get?_subset hget)

theorem target_eq_ok {document : Value} {pointer : String} {entries : List Entry} :
    target document pointer = .ok entries ↔
      ∃ keys ∈ keys? pointer, ∃ v ∈ walk keys document, v.entries? = some entries := by
  unfold target
  cases keys? pointer with
  | none => simp
  | some keys =>
    cases hwalk : walk keys document with
    | none => simp [hwalk]
    | some v => cases hentries : v.entries? <;> simp [hwalk, hentries]

theorem target_eq_error {document : Value} {pointer : String} {e : ReferenceError} :
    target document pointer = .error e ↔
      (e = .remote pointer ∧ keys? pointer = none) ∨
        ∃ keys ∈ keys? pointer,
          (e = .unresolvable pointer ∧ walk keys document = none) ∨
            ∃ v ∈ walk keys document, e = .notAnObject pointer ∧ v.entries? = none := by
  unfold target
  cases keys? pointer with
  | none => simp [eq_comm]
  | some keys =>
    cases hwalk : walk keys document with
    | none => simp [hwalk, eq_comm]
    | some v => cases hentries : v.entries? <;> simp [hwalk, hentries, eq_comm]

theorem target_ne_circular (document : Value) (pointer r : String) :
    target document pointer ≠ .error (.circular r) := by
  rw [Ne, target_eq_error]
  simp

theorem pointerOf_target_subset {document : Value} {pointer : String} {entries : List Entry}
    (h : target document pointer = .ok entries) :
    (pointerOf entries).toList ⊆ document.pointers := by
  obtain ⟨keys, -, v, hwalk, hentries⟩ := target_eq_ok.1 h
  refine List.Subset.trans ?_ (pointers_walk_subset hwalk)
  rw [Value.pointers_eq hentries]
  exact List.subset_append_left _ _

end Pointer

/-! The chain of objects, each of which points at the next. -/

namespace Value

def chain (document : Value) (start : List Entry) : Nat → Option (List Entry)
  | 0 => some start
  | n + 1 =>
    (document.chain start n).bind pointerOf >>= fun p => (Pointer.target document p).toOption

def pointerAt (document : Value) (start : List Entry) (n : Nat) : Option String :=
  (document.chain start n).bind pointerOf

def pointersFrom (document : Value) (start : List Entry) : List String :=
  (pointerOf start).toList ++ document.pointers

def DistinctBefore (document : Value) (start : List Entry) (n : Nat) : Prop :=
  ∀ j < n, ∀ i < j, document.pointerAt start i ≠ document.pointerAt start j

def FirstRepeat (document : Value) (start : List Entry) (n : Nat) (pointer : String) : Prop :=
  document.pointerAt start n = some pointer ∧ document.DistinctBefore start n ∧
    ∃ i < n, document.pointerAt start i = some pointer

variable {document : Value} {start entries : List Entry} {i j m n : Nat} {p : String}

theorem chain_succ (document : Value) (start : List Entry) (n : Nat) :
    document.chain start (n + 1) =
      document.pointerAt start n >>= fun p => (Pointer.target document p).toOption :=
  rfl

theorem chain_succ_of_target (hp : document.pointerAt start n = some p)
    (h : Pointer.target document p = .ok entries) :
    document.chain start (n + 1) = some entries := by
  rw [chain_succ, hp, Option.bind_eq_bind, Option.bind_some, h]
  rfl

theorem chain_succ_eq_none {e : ReferenceError} (hp : document.pointerAt start n = some p)
    (h : Pointer.target document p = .error e) : document.chain start (n + 1) = none := by
  rw [chain_succ, hp, Option.bind_eq_bind, Option.bind_some, h]
  rfl

theorem chain_succ_eq_none_of_pointerAt (hp : document.pointerAt start n = none) :
    document.chain start (n + 1) = none := by
  rw [chain_succ, hp]
  rfl

theorem pointerAt_eq (h : document.chain start n = some entries) :
    document.pointerAt start n = pointerOf entries := by
  rw [pointerAt, h, Option.bind_some]

theorem isSome_chain_of_pointerAt (h : document.pointerAt start n = some p) :
    (document.chain start n).isSome := by
  obtain ⟨entries, hchain, -⟩ := Option.bind_eq_some_iff.1 h
  rw [hchain]
  rfl

theorem isSome_chain_of_le (hmn : m ≤ n) (h : (document.chain start n).isSome) :
    (document.chain start m).isSome := by
  induction hmn with
  | refl => exact h
  | @step n _ ih =>
    obtain ⟨entries, hchain⟩ := Option.isSome_iff_exists.1 h
    obtain ⟨p, hp, -⟩ := Option.bind_eq_some_iff.1 (chain_succ document start n ▸ hchain)
    exact ih (isSome_chain_of_pointerAt hp)

theorem eq_of_chain_ends (hm : (document.chain start m).isSome)
    (hm' : document.chain start (m + 1) = none) (hn : (document.chain start n).isSome)
    (hn' : document.chain start (n + 1) = none) : m = n := by
  have hle : ∀ {k l : Nat}, document.chain start (k + 1) = none →
      (document.chain start l).isSome → l ≤ k := by
    intro k l hk hl
    by_contra hlt
    have hsome := isSome_chain_of_le (Nat.succ_le_of_lt (Nat.lt_of_not_le hlt)) hl
    rw [hk] at hsome
    cases hsome
  exact Nat.le_antisymm (hle hn' hm) (hle hm' hn)

theorem chain_add_eq (h : document.chain start i = document.chain start j) (k : Nat) :
    document.chain start (i + k) = document.chain start (j + k) := by
  induction k with
  | zero => exact h
  | succ k ih =>
    rw [← Nat.add_assoc, ← Nat.add_assoc, chain_succ, chain_succ, pointerAt, pointerAt, ih]

theorem isSome_chain_of_repeat (hij : i < j) (hi : document.pointerAt start i = some p)
    (hj : document.pointerAt start j = some p) (n : Nat) : (document.chain start n).isSome := by
  have heq : document.chain start (j + 1) = document.chain start (i + 1) := by
    rw [chain_succ, chain_succ, hi, hj]
  induction n using Nat.strongRecOn with
  | ind n ih =>
    by_cases hn : n ≤ j
    · exact isSome_chain_of_le hn (isSome_chain_of_pointerAt hj)
    · obtain ⟨k, rfl⟩ := Nat.exists_eq_add_of_lt (Nat.lt_of_not_le hn)
      have hback := chain_add_eq heq k
      rw [show j + k + 1 = j + 1 + k by omega, hback]
      exact ih _ (by omega)

theorem mem_pointersFrom (h : document.pointerAt start n = some p) :
    p ∈ document.pointersFrom start := by
  cases n with
  | zero => exact List.mem_append_left _ (Option.mem_toList.2 h)
  | succ n =>
    obtain ⟨entries, hchain, hp⟩ := Option.bind_eq_some_iff.1 h
    obtain ⟨q, -, htarget⟩ := Option.bind_eq_some_iff.1 (chain_succ document start n ▸ hchain)
    have hok : Pointer.target document q = .ok entries := by
      cases hresult : Pointer.target document q <;> rw [hresult] at htarget <;> cases htarget
      rfl
    exact List.mem_append_right _ (Pointer.pointerOf_target_subset hok (Option.mem_toList.2 hp))

end Value

def stop? (document : Value) (entries : List Entry) : Option (Except ReferenceError (List Entry)) :=
  match pointerOf entries with
  | none => some (.ok entries)
  | some p =>
    match Pointer.target document p with
    | .error e => some (.error e)
    | .ok _ => none

/-- How a chain ends, or that it does not. -/
inductive Ends (document : Value) (start : List Entry) : Except ReferenceError (List Entry) → Prop
  | stopped {n : Nat} {last : List Entry} {result : Except ReferenceError (List Entry)} :
      document.chain start n = some last → stop? document last = some result →
        Ends document start result
  | circular {n : Nat} {p : String} :
      document.FirstRepeat start n p → Ends document start (.error (.circular p))

section

variable {document : Value} {start last : List Entry} {n n' : Nat} {p p' : String}
  {result result' : Except ReferenceError (List Entry)}

theorem stop?_eq_ok :
    stop? document last = some (.ok start) ↔ last = start ∧ pointerOf last = none := by
  unfold stop?
  cases pointerOf last with
  | none => simp
  | some p => cases htarget : Pointer.target document p <;> simp [htarget]

theorem stop?_eq_error {e : ReferenceError} :
    stop? document last = some (.error e) ↔
      ∃ p ∈ pointerOf last, Pointer.target document p = .error e := by
  unfold stop?
  cases pointerOf last with
  | none => simp
  | some p => cases htarget : Pointer.target document p <;> simp [htarget]

theorem chain_succ_of_stop? (hchain : document.chain start n = some last)
    (h : stop? document last = some result) : document.chain start (n + 1) = none := by
  have hpointer := Value.pointerAt_eq hchain
  cases result with
  | ok entries => exact Value.chain_succ_eq_none_of_pointerAt (hpointer.trans (stop?_eq_ok.1 h).2)
  | error e =>
    obtain ⟨p, hp, he⟩ := stop?_eq_error.1 h
    exact Value.chain_succ_eq_none (hpointer.trans hp) he

theorem Value.FirstRepeat.endless (h : document.FirstRepeat start n p) (k : Nat) :
    (document.chain start k).isSome := by
  obtain ⟨hn, -, i, hi, hmet⟩ := h
  exact isSome_chain_of_repeat hi hmet hn k

theorem Value.FirstRepeat.unique (h : document.FirstRepeat start n p)
    (h' : document.FirstRepeat start n' p') : p = p' := by
  have hle : ∀ {k l : Nat} {q r : String}, document.FirstRepeat start k q →
      document.FirstRepeat start l r → l ≤ k := by
    intro k l q r hk hl
    obtain ⟨hk, -, i, hi, hmet⟩ := hk
    by_contra hlt
    exact hl.2.1 k (Nat.lt_of_not_le hlt) i hi (hmet.trans hk.symm)
  obtain rfl := Nat.le_antisymm (hle h' h) (hle h h')
  exact Option.some.inj (h.1.symm.trans h'.1)

theorem Ends.unique (h : Ends document start result) (h' : Ends document start result') :
    result = result' := by
  have hmixed : ∀ {m n : Nat} {p : String} {last : List Entry}
      {r : Except ReferenceError (List Entry)}, document.FirstRepeat start m p →
        document.chain start n = some last → stop? document last = some r → False := by
    intro m n p last r hrepeat hchain hstop
    have hsome := hrepeat.endless (n + 1)
    rw [chain_succ_of_stop? hchain hstop] at hsome
    cases hsome
  cases h with
  | stopped hchain hstop =>
    cases h' with
    | stopped hchain' hstop' =>
      obtain rfl := Value.eq_of_chain_ends (Option.isSome_of_eq_some hchain)
        (chain_succ_of_stop? hchain hstop) (Option.isSome_of_eq_some hchain')
        (chain_succ_of_stop? hchain' hstop')
      obtain rfl := Option.some.inj (hchain.symm.trans hchain')
      exact Option.some.inj (hstop.symm.trans hstop')
    | circular hrepeat' => exact (hmixed hrepeat' hchain hstop).elim
  | circular hrepeat =>
    cases h' with
    | stopped hchain' hstop' => exact (hmixed hrepeat hchain' hstop').elim
    | circular hrepeat' => rw [hrepeat.unique hrepeat']

theorem ends_followFresh {entries : List Entry} (fresh : List String)
    (hchain : document.chain start n = some entries)
    (hdistinct : document.DistinctBefore start n)
    (hfresh : ∀ q ∈ document.pointersFrom start,
      q ∈ fresh ↔ ∀ i < n, document.pointerAt start i ≠ some q) :
    Ends document start (followFresh document fresh entries) := by
  induction fresh, entries using followFresh.induct document generalizing n with
  | case1 fresh entries hnone =>
    rw [followFresh, hnone]
    exact .stopped hchain (stop?_eq_ok.2 ⟨rfl, hnone⟩)
  | case2 fresh entries p hp hmem e he =>
    rw [followFresh, hp]
    simp only [dif_pos hmem, he]
    exact .stopped hchain (stop?_eq_error.2 ⟨p, hp, he⟩)
  | case3 fresh entries p hp hmem next hnext ih =>
    rw [followFresh, hp]
    simp only [dif_pos hmem, hnext]
    have hpointer := (Value.pointerAt_eq hchain).trans hp
    have hnew := (hfresh p (Value.mem_pointersFrom hpointer)).1 hmem
    refine ih (Value.chain_succ_of_target hpointer hnext) ?_ ?_
    · intro j hj i hij heq
      rcases Nat.lt_succ_iff_lt_or_eq.1 hj with hj | rfl
      · exact hdistinct j hj i hij heq
      · exact hnew i hij (heq.trans hpointer)
    · intro q hq
      rw [without, List.mem_filter, hfresh q hq]
      constructor
      · rintro ⟨hold, hne⟩ i hi heq
        rcases Nat.lt_succ_iff_lt_or_eq.1 hi with hi | rfl
        · exact hold i hi heq
        · rw [hpointer] at heq
          simp [Option.some.inj heq] at hne
      · intro hall
        refine ⟨fun i hi => hall i (Nat.lt_succ_of_lt hi), decide_eq_true ?_⟩
        rintro rfl
        exact hall n (Nat.lt_succ_self n) hpointer
  | case4 fresh entries p hp hmem =>
    rw [followFresh, hp]
    simp only [dif_neg hmem]
    have hpointer := (Value.pointerAt_eq hchain).trans hp
    have hmet := mt (hfresh p (Value.mem_pointersFrom hpointer)).2 hmem
    push Not at hmet
    exact .circular ⟨hpointer, hdistinct, hmet⟩

theorem follow_ofValue (document : Value) (start : List Entry) :
    (Linked.ofValue document).follow start =
      followFresh document (document.pointersFrom start) start := by
  unfold Linked.follow
  cases hp : pointerOf start with
  | none => rw [followFresh, hp]
  | some p =>
    rw [Value.pointersFrom, hp]
    rfl

theorem follow_eq_iff :
    (Linked.ofValue document).follow start = result ↔ Ends document start result := by
  have hends : Ends document start ((Linked.ofValue document).follow start) := by
    rw [follow_ofValue]
    refine ends_followFresh _ (n := 0) rfl ?_ ?_
    · intro j hj
      cases hj
    · intro q hq
      exact iff_of_true hq fun i hi => absurd hi (Nat.not_lt_zero i)
  exact ⟨fun h => h ▸ hends, fun h => hends.unique h⟩

theorem follow_eq_ok_iff :
    (Linked.ofValue document).follow start = .ok last ↔
      ∃ n, document.chain start n = some last ∧ pointerOf last = none := by
  rw [follow_eq_iff]
  constructor
  · intro h
    cases h with
    | @stopped n last' _ hchain hstop =>
      obtain ⟨rfl, hlast⟩ := stop?_eq_ok.1 hstop
      exact ⟨n, hchain, hlast⟩
  · rintro ⟨n, hchain, hlast⟩
    exact .stopped hchain (stop?_eq_ok.2 ⟨rfl, hlast⟩)

theorem follow_eq_circular_iff :
    (Linked.ofValue document).follow start = .error (.circular p) ↔
      ∃ n, document.FirstRepeat start n p := by
  rw [follow_eq_iff]
  constructor
  · intro h
    cases h with
    | stopped hchain hstop =>
      obtain ⟨q, -, he⟩ := stop?_eq_error.1 hstop
      exact (Pointer.target_ne_circular document q p he).elim
    | @circular n _ hrepeat => exact ⟨n, hrepeat⟩
  · rintro ⟨n, hrepeat⟩
    exact .circular hrepeat

theorem follow_eq_error_iff {e : ReferenceError} :
    ((Linked.ofValue document).follow start = .error e ∧ ∀ p, e ≠ .circular p) ↔
      ∃ n, ∃ p ∈ document.pointerAt start n, Pointer.target document p = .error e := by
  rw [follow_eq_iff]
  constructor
  · rintro ⟨h, hne⟩
    cases h with
    | @stopped n last _ hchain hstop =>
      obtain ⟨p, hp, he⟩ := stop?_eq_error.1 hstop
      exact ⟨n, p, (Value.pointerAt_eq hchain).trans hp, he⟩
    | @circular n p hrepeat => exact (hne p rfl).elim
  · rintro ⟨n, p, hp, he⟩
    obtain ⟨last, hchain, hlast⟩ := Option.bind_eq_some_iff.1 hp
    refine ⟨.stopped hchain (stop?_eq_error.2 ⟨p, hlast, he⟩), ?_⟩
    rintro r rfl
    exact Pointer.target_ne_circular document p r he

theorem exists_follow_eq_circular_iff :
    (∃ p, (Linked.ofValue document).follow start = .error (.circular p)) ↔
      ∀ n, (document.chain start n).isSome := by
  constructor
  · rintro ⟨p, h⟩
    obtain ⟨n, hrepeat⟩ := follow_eq_circular_iff.1 h
    exact hrepeat.endless
  · intro hendless
    obtain ⟨result, hresult⟩ : ∃ result, (Linked.ofValue document).follow start = result :=
      ⟨_, rfl⟩
    rw [hresult]
    cases follow_eq_iff.1 hresult with
    | @stopped n last _ hchain hstop =>
      have hsome := hendless (n + 1)
      rw [chain_succ_of_stop? hchain hstop] at hsome
      cases hsome
    | @circular n p hrepeat => exact ⟨p, rfl⟩

end

/-! How often following looks a pointer up. -/

def followBy {m : Type → Type} [Monad m] [MonadExcept ReferenceError m]
    (look : String → m (List Entry)) (fresh : List String) (entries : List Entry) :
    m (List Entry) :=
  match pointerOf entries with
  | none => pure entries
  | some p =>
    if _h : p ∈ fresh then do
      let next ← look p
      followBy look (without p fresh) next
    else throw (.circular p)
termination_by fresh.length
decreasing_by exact length_without_lt _h

theorem followFresh_eq_followBy (document : Value) (fresh : List String) (entries : List Entry) :
    followFresh document fresh entries = followBy (Pointer.target document) fresh entries := by
  induction fresh, entries using followFresh.induct document with
  | case1 fresh entries hnone =>
    rw [followFresh, followBy, hnone]
    rfl
  | case2 fresh entries p hp hmem e he =>
    rw [followFresh, followBy, hp]
    simp only [dif_pos hmem, he]
    rfl
  | case3 fresh entries p hp hmem next hnext ih =>
    rw [followFresh, followBy, hp]
    simp only [dif_pos hmem, hnext, ih]
    rfl
  | case4 fresh entries p hp hmem =>
    rw [followFresh, followBy, hp]
    simp only [dif_neg hmem]
    rfl

def lookNoting (document : Value) (p : String) :
    ExceptT ReferenceError (StateM (List String)) (List Entry) :=
  fun noted => (Pointer.target document p, noted ++ [p])

def followNoting (document : Value) (start : List Entry) :
    Except ReferenceError (List Entry) × List String :=
  followBy (lookNoting document) (document.pointersFrom start) start []

theorem bind_lookNoting_error {document : Value} {p : String} {e : ReferenceError}
    (h : Pointer.target document p = .error e)
    {f : List Entry → ExceptT ReferenceError (StateM (List String)) (List Entry)}
    (noted : List String) : (lookNoting document p >>= f) noted = (.error e, noted ++ [p]) := by
  change ExceptT.bindCont f (Pointer.target document p) (noted ++ [p]) = _
  rw [h]
  rfl

theorem bind_lookNoting_ok {document : Value} {p : String} {next : List Entry}
    (h : Pointer.target document p = .ok next)
    {f : List Entry → ExceptT ReferenceError (StateM (List String)) (List Entry)}
    (noted : List String) : (lookNoting document p >>= f) noted = f next (noted ++ [p]) := by
  change ExceptT.bindCont f (Pointer.target document p) (noted ++ [p]) = _
  rw [h]
  rfl

theorem followBy_lookNoting (document : Value) (fresh : List String) (entries : List Entry) :
    ∃ looked : List String, looked.Nodup ∧ looked ⊆ fresh ∧
      ∀ noted, followBy (lookNoting document) fresh entries noted =
        (followFresh document fresh entries, noted ++ looked) := by
  induction fresh, entries using followFresh.induct document with
  | case1 fresh entries hnone =>
    refine ⟨[], List.nodup_nil, List.nil_subset _, fun noted => ?_⟩
    rw [followFresh, followBy, hnone, List.append_nil]
    rfl
  | case2 fresh entries p hp hmem e he =>
    refine ⟨[p], List.nodup_singleton p, by simpa using hmem, fun noted => ?_⟩
    rw [followFresh, followBy, hp]
    simp only [dif_pos hmem, he]
    exact bind_lookNoting_error he noted
  | case3 fresh entries p hp hmem next hnext ih =>
    obtain ⟨looked, hnodup, hsubset, hrun⟩ := ih
    have hmem_fresh : ∀ q ∈ looked, q ∈ fresh ∧ q ≠ p := by
      intro q hq
      simpa [without] using hsubset hq
    refine ⟨p :: looked, ?_, ?_, fun noted => ?_⟩
    · exact List.nodup_cons.2 ⟨fun h => (hmem_fresh p h).2 rfl, hnodup⟩
    · exact List.cons_subset.2 ⟨hmem, fun q hq => (hmem_fresh q hq).1⟩
    · rw [followFresh, followBy, hp]
      simp only [dif_pos hmem, hnext]
      rw [bind_lookNoting_ok hnext, hrun, List.append_assoc]
      rfl
  | case4 fresh entries p hp hmem =>
    refine ⟨[], List.nodup_nil, List.nil_subset _, fun noted => ?_⟩
    rw [followFresh, followBy, hp, List.append_nil]
    simp only [dif_neg hmem]
    rfl

theorem followNoting_eq (document : Value) (start : List Entry) :
    ∃ looked : List String, looked.Nodup ∧ looked ⊆ document.pointersFrom start ∧
      followNoting document start = ((Linked.ofValue document).follow start, looked) := by
  obtain ⟨looked, hnodup, hsubset, hrun⟩ :=
    followBy_lookNoting document (document.pointersFrom start) start
  refine ⟨looked, hnodup, hsubset, ?_⟩
  rw [followNoting, hrun, follow_ofValue, List.nil_append]

/-- Following finds the end of the chain if it has one and no pointer on it fails, fails as the
pointer does that leads nowhere, and reports a circle exactly if the chain has no end: then it
names the first pointer that is met again. It looks up pointers of the first object and of the
document only, and none of them twice. -/
theorem follow_exact (document : Value) (start : List Entry) :
    (∀ last, (Linked.ofValue document).follow start = .ok last ↔
        ∃ n, document.chain start n = some last ∧ pointerOf last = none) ∧
      ((∃ p, (Linked.ofValue document).follow start = .error (.circular p)) ↔
        ∀ n, (document.chain start n).isSome) ∧
      (∀ p, (Linked.ofValue document).follow start = .error (.circular p) ↔
        ∃ n, document.FirstRepeat start n p) ∧
      (∀ e, ((Linked.ofValue document).follow start = .error e ∧ ∀ p, e ≠ .circular p) ↔
        ∃ n, ∃ p ∈ document.pointerAt start n, Pointer.target document p = .error e) ∧
      (Linked.ofValue document).follow start =
        followBy (Pointer.target document) (document.pointersFrom start) start ∧
      (followNoting document start).1 = (Linked.ofValue document).follow start ∧
      (followNoting document start).2.Nodup ∧
      (followNoting document start).2 ⊆ document.pointersFrom start := by
  obtain ⟨looked, hnodup, hsubset, hnoted⟩ := followNoting_eq document start
  rw [hnoted]
  refine ⟨fun last => follow_eq_ok_iff, exists_follow_eq_circular_iff,
    fun p => follow_eq_circular_iff, fun e => follow_eq_error_iff, ?_, rfl, hnodup, hsubset⟩
  rw [follow_ofValue, followFresh_eq_followBy]

end TypedClient
