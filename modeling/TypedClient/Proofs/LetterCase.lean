import TypedClient.Text.Case
import TypedClient.Text.Surrogate

namespace TypedClient.Text

theorem eq_toNat_of_ofNat_eq {n : Nat} {c : Char} (h : Char.ofNat n = c) (hc : c ≠ '\x00') :
    n = c.toNat := by
  subst h
  by_cases hn : n.isValidChar
  · exact (toNat_ofNat_of_valid hn).symm
  · exact absurd (dif_neg hn) hc

def isSpared (runs : List CaseRun) (expansions : List (Nat × List Nat)) (b : Char) : Bool :=
  (runs.all fun r => b.toNat < r.image || r.last - r.first + r.image < b.toNat) &&
    expansions.all fun e => e.2.all fun n => Char.ofNat n != b

variable {runs : List CaseRun} {expansions : List (Nat × List Nat)} {b c : Char}

theorem eq_of_isSpared (h : isSpared runs expansions b = true) (hzero : b ≠ '\x00')
    (hmem : b ∈ mapCase runs expansions c) : b = c := by
  simp only [isSpared, Bool.and_eq_true, List.all_eq_true] at h
  obtain ⟨hruns, hexpansions⟩ := h
  unfold mapCase at hmem
  split at hmem
  next image himage =>
    obtain ⟨l, r, hsplit, -⟩ := List.lookup_eq_some_iff.1 himage
    obtain ⟨n, hn, hb⟩ := List.mem_map.1 hmem
    have hne := hexpansions (c.toNat, image) (by simp [hsplit]) n hn
    simp [hb] at hne
  next =>
    rw [List.mem_singleton] at hmem
    have hnat := eq_toNat_of_ofNat_eq hmem.symm hzero
    cases hrun : runs.findSome? (·.image? c.toNat) with
    | none => simpa [hrun] using hmem
    | some n =>
      obtain ⟨r, hr, himage⟩ := List.exists_of_findSome?_eq_some hrun
      have hr : b.toNat < r.image ∨ r.last - r.first + r.image < b.toNat := by
        simpa using hruns r hr
      rw [hrun, Option.getD_some] at hnat
      unfold CaseRun.image? at himage
      split at himage
      next hrange =>
        have hvalue := Option.some.inj himage
        omega
      next => simp at himage

theorem mapCase_ne_nil (h : (expansions.all fun e => !e.2.isEmpty) = true) (c : Char) :
    mapCase runs expansions c ≠ [] := by
  unfold mapCase
  split
  next image himage =>
    obtain ⟨l, r, hsplit, -⟩ := List.lookup_eq_some_iff.1 himage
    have hne := List.all_eq_true.1 h (c.toNat, image) (by simp [hsplit])
    simpa using hne
  next => simp

theorem eq_of_mem_lowerChar (hb : b ∈ ['{', '}']) (h : b ∈ lowerChar c) : b = c := by
  have htables : ['{', '}'].all (isSpared lowerRuns lowerExpansions) = true := by decide +kernel
  have hzero : b ≠ '\x00' := by
    rintro rfl
    simp at hb
  exact eq_of_isSpared (List.all_eq_true.1 htables b hb) hzero h

theorem lowerChar_ne_nil (c : Char) : lowerChar c ≠ [] := mapCase_ne_nil (by decide) c

theorem not_mem_lowerLead (hb : b ∈ ['{', '}']) {s : String} (h : b ∉ s.toList) :
    b ∉ (lowerLead s).toList := by
  unfold lowerLead
  split
  next => simp
  next c rest hs =>
    rw [hs, List.mem_cons, not_or] at h
    rw [String.toList_ofList, List.mem_append, not_or]
    exact ⟨fun hmem => h.1 (eq_of_mem_lowerChar hb hmem), h.2⟩

theorem eq_of_mem_upperChar (h : '_' ∈ upperChar c) : '_' = c :=
  eq_of_isSpared (by decide +kernel) (by decide) h

theorem upperChar_ne_nil (c : Char) : upperChar c ≠ [] := mapCase_ne_nil (by decide) c

theorem upperLead_of_underscore {s : String} (h : s.toList.head? = some '_') :
    upperLead s = s := by
  obtain ⟨rest, hs⟩ := List.head?_eq_some_iff.1 h
  have hupper : upperChar '_' = ['_'] := by decide +kernel
  rw [upperLead, hs]
  dsimp only
  rw [hupper, List.singleton_append, ← hs, String.ofList_toList]

theorem underscore_of_upperLead {s : String} (h : (upperLead s).toList.head? = some '_') :
    s.toList.head? = some '_' := by
  unfold upperLead at h
  split at h
  next => cases h
  next c rest hs =>
    obtain ⟨c', image, himage⟩ := List.exists_cons_of_ne_nil (upperChar_ne_nil c)
    rw [String.toList_ofList, himage, List.cons_append, List.head?_cons] at h
    obtain rfl := Option.some.inj h
    obtain rfl := eq_of_mem_upperChar (himage ▸ List.mem_cons_self)
    rw [hs, List.head?_cons]

end TypedClient.Text
