import TypedClient.Naming

namespace TypedClient

def underscores (n : Nat) : String := String.ofList (List.replicate n '_')

def Padded (base name : String) : Prop := ∃ n, name = base ++ underscores n

theorem append_underscores_succ (name : String) (n : Nat) :
    name ++ underscores (n + 1) = name ++ underscores n ++ "_" := by
  apply String.toList_injective
  simp [underscores, List.replicate_succ']

theorem append_underscores_zero (name : String) : name ++ underscores 0 = name := by
  simp [underscores]

theorem append_underscore_underscores (name : String) (n : Nat) :
    name ++ "_" ++ underscores n = name ++ underscores (n + 1) := by
  apply String.toList_injective
  simp [underscores, List.replicate_succ]

theorem append_underscore_not_mem_keywords (name : String) : name ++ "_" ∉ keywords := by
  have hlast : ∀ w ∈ keywords, w.toList.getLast? ≠ some '_' := by decide
  intro h
  apply hlast _ h
  simp

theorem Padded.refl (name : String) : Padded name name := ⟨0, (append_underscores_zero name).symm⟩

theorem Padded.push {base name : String} (h : Padded (base ++ "_") name) : Padded base name := by
  obtain ⟨n, rfl⟩ := h
  exact ⟨n + 1, append_underscore_underscores base n⟩

theorem Padded.trans {base middle name : String} (h : Padded base middle)
    (h' : Padded middle name) : Padded base name := by
  obtain ⟨m, rfl⟩ := h
  obtain ⟨n, rfl⟩ := h'
  refine ⟨m + n, ?_⟩
  apply String.toList_injective
  simp [underscores, ← List.replicate_append_replicate]

theorem Padded.length_le {base name : String} (h : Padded base name) :
    base.length ≤ name.length := by
  obtain ⟨n, rfl⟩ := h
  simp

theorem Padded.not_mem_keywords {base name : String} (h : Padded base name)
    (hb : base ∉ keywords) : name ∉ keywords := by
  obtain ⟨n, rfl⟩ := h
  cases n with
  | zero => simpa [underscores] using hb
  | succ n =>
    rw [append_underscores_succ]
    exact append_underscore_not_mem_keywords _

theorem identifier_padded (reserved : List String) (name : String) :
    Padded name (identifier reserved name) := by
  unfold identifier
  split
  · exact (Padded.refl _).push
  · exact Padded.refl _

theorem identifier_not_mem_keywords (reserved : List String) (name : String) :
    identifier reserved name ∉ keywords := by
  unfold identifier
  split
  next => exact append_underscore_not_mem_keywords name
  next h => exact fun hw => h (.inl hw)

theorem firstFree_padded (taken : List String) (name : String) :
    Padded name (firstFree taken name) := by
  induction taken, name using firstFree.induct with
  | case1 taken name h ih =>
    rw [firstFree, dif_pos h]
    exact ih.push
  | case2 taken name h =>
    rw [firstFree, dif_neg h]
    exact Padded.refl name

theorem firstFree_not_mem (taken : List String) (name : String) :
    firstFree taken name ∉ taken := by
  induction taken, name using firstFree.induct with
  | case1 taken name h ih =>
    rw [firstFree, dif_pos h]
    -- the refused name leaves the list, but it is shorter than what is found at last
    have hlen := (firstFree_padded (taken.erase name) (name ++ "_")).length_le
    have hne : firstFree (taken.erase name) (name ++ "_") ≠ name := by
      intro heq
      rw [heq, String.length_append] at hlen
      exact absurd hlen (Nat.not_succ_le_self _)
    intro hmem
    exact ih ((List.mem_erase_of_ne hne).2 hmem)
  | case2 taken name h =>
    rw [firstFree, dif_neg h]
    exact h

theorem firstFree_identifier_padded (taken reserved : List String) (name : String) :
    Padded name (firstFree taken (identifier reserved name)) :=
  (identifier_padded reserved name).trans (firstFree_padded taken _)

def firstFreeAll (taken : List String) : List String → List String
  | [] => []
  | name :: rest => firstFree taken name :: firstFreeAll (firstFree taken name :: taken) rest

theorem firstFreeAll_disjoint (taken names : List String) :
    ∀ free ∈ firstFreeAll taken names, free ∉ taken := by
  induction names generalizing taken with
  | nil => simp [firstFreeAll]
  | cons name rest ih =>
    intro free h
    rcases List.mem_cons.1 h with rfl | h
    · exact firstFree_not_mem taken name
    · exact fun hmem => ih _ free h (List.mem_cons_of_mem _ hmem)

theorem firstFreeAll_nodup (taken names : List String) : (firstFreeAll taken names).Nodup := by
  induction names generalizing taken with
  | nil => simp [firstFreeAll]
  | cons name rest ih =>
    rw [firstFreeAll, List.nodup_cons]
    refine ⟨fun h => ?_, ih _⟩
    exact firstFreeAll_disjoint _ rest _ h List.mem_cons_self

theorem firstFreeAll_not_mem_keywords (taken : List String) {names : List String}
    (h : ∀ name ∈ names, name ∉ keywords) :
    ∀ free ∈ firstFreeAll taken names, free ∉ keywords := by
  induction names generalizing taken with
  | nil => simp [firstFreeAll]
  | cons name rest ih =>
    obtain ⟨hname, hrest⟩ := List.forall_mem_cons.1 h
    intro free hfree
    rcases List.mem_cons.1 hfree with rfl | hfree
    · exact (firstFree_padded taken name).not_mem_keywords hname
    · exact ih _ hrest free hfree

end TypedClient
