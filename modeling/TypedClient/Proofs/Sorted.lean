import Mathlib.Data.List.Nodup
import Mathlib.Data.List.Perm.Basic
import TypedClient.Text.Sorted

namespace TypedClient.Text

theorem nodup_eraseDups (names : List String) : names.eraseDups.Nodup := by
  induction h : names.length using Nat.strongRecOn generalizing names with
  | ind n ih =>
    subst h
    cases names with
    | nil => exact List.nodup_nil
    | cons name rest =>
      have hshort : (rest.filter fun other => !other == name).length < (name :: rest).length :=
        Nat.lt_succ_of_le (List.length_filter_le _ _)
      rw [List.eraseDups_cons, List.nodup_cons]
      exact ⟨by simp [List.mem_eraseDups], ih _ hshort _ rfl⟩

@[simp] theorem mem_sorted {name : String} {names : List String} :
    name ∈ sorted names ↔ name ∈ names := by
  rw [sorted, List.mem_mergeSort, List.mem_eraseDups]

theorem nodup_sorted (names : List String) : (sorted names).Nodup :=
  (List.mergeSort_perm _ _).nodup_iff.2 (nodup_eraseDups names)

theorem pairwise_sorted (names : List String) : (sorted names).Pairwise (· ≤ ·) := by
  have htrans : ∀ a b c : String, (!decide (b < a)) → (!decide (c < b)) → !decide (c < a) := by
    intro a b c hab hbc
    simp only [Bool.not_eq_true', decide_eq_false_iff_not, String.not_lt] at *
    exact String.le_trans hab hbc
  have htotal : ∀ a b : String, (!decide (b < a) || !decide (a < b)) := by
    intro a b
    simp only [Bool.or_eq_true, Bool.not_eq_true', decide_eq_false_iff_not, String.not_lt]
    exact String.le_total a b
  refine List.Pairwise.imp ?_ (List.pairwise_mergeSort htrans htotal names.eraseDups)
  intro a b hab
  simpa only [Bool.not_eq_true', decide_eq_false_iff_not, String.not_lt] using hab

theorem sorted_eq_sorted_iff {names names' : List String} :
    sorted names = sorted names' ↔ ∀ name, name ∈ names ↔ name ∈ names' := by
  constructor
  · intro h name
    rw [← mem_sorted, h, mem_sorted]
  · intro h
    have hperm : (sorted names).Perm (sorted names') :=
      (List.perm_ext_iff_of_nodup (nodup_sorted names) (nodup_sorted names')).2 fun name => by
        rw [mem_sorted, mem_sorted, h]
    exact hperm.eq_of_pairwise (fun a b _ _ => String.le_antisymm) (pairwise_sorted names)
      (pairwise_sorted names')

theorem find?_reverse_of_nodup {α : Type} {name : α → String} {xs : List α}
    (hnodup : (xs.map name).Nodup) {x : α} (hx : x ∈ xs) :
    (xs.reverse.find? fun other => name other = name x) = some x := by
  cases hfound : xs.reverse.find? fun other => name other = name x with
  | none =>
    have hno := List.find?_eq_none.1 hfound x (List.mem_reverse.2 hx)
    simp at hno
  | some other =>
    have hother := List.mem_reverse.1 (List.mem_of_find?_eq_some hfound)
    have hname : name other = name x := by simpa using List.find?_some hfound
    rw [List.inj_on_of_nodup_map hnodup hother hx hname]

end TypedClient.Text
