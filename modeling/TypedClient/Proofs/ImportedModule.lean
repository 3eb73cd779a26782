import Mathlib.Data.List.Basic
import TypedClient.Proofs.Outcome
import TypedClient.Verify

namespace TypedClient

open Target

namespace Target

theorem lookup_cons_of_ne {name n : String} (h : name ≠ n) (o : Object)
    (rest : List (String × Object)) : List.lookup name ((n, o) :: rest) = rest.lookup name := by
  rw [List.lookup_cons, beq_false_of_ne h]

theorem mem_of_lookup {names : List (String × Object)} {name : String} {o : Object}
    (h : names.lookup name = some o) : (name, o) ∈ names := by
  obtain ⟨before, after, rfl, -⟩ := List.lookup_eq_some_iff.1 h
  exact List.mem_append_right _ List.mem_cons_self

theorem lookup_replace (names : List (String × Object)) (name other : String) (o : Object) :
    (names.map fun (n, p) => if n == name then (n, o) else (n, p)).lookup other =
      if other = name then (names.lookup name).map fun _ => o else names.lookup other := by
  induction names with
  | nil => simp
  | cons entry rest ih =>
    obtain ⟨n, p⟩ := entry
    rw [List.map_cons]
    dsimp only
    by_cases hn : n = name
    · subst hn
      by_cases hother : other = n
      · simp [hother]
      · rw [if_pos (beq_self_eq_true n), lookup_cons_of_ne hother, ih, if_neg hother,
          if_neg hother, lookup_cons_of_ne hother]
    · rw [if_neg (mt eq_of_beq hn), lookup_cons_of_ne (Ne.symm hn)]
      by_cases hother : other = n
      · subst hother
        simp [hn]
      · rw [lookup_cons_of_ne hother, ih, lookup_cons_of_ne hother]

theorem lookup_rebind (names : List (String × Object)) (name other : String) (o : Object) :
    (rebind names name o).lookup other = if other = name then some o else names.lookup other := by
  unfold rebind
  split
  next hbound =>
    obtain ⟨entry, hentry, hname⟩ := List.any_eq_true.1 hbound
    have hsome : (names.lookup name).isSome :=
      List.lookup_isSome_iff.2 ⟨entry, hentry, beq_iff_eq.2 (eq_of_beq hname).symm⟩
    obtain ⟨p, hp⟩ := Option.isSome_iff_exists.1 hsome
    rw [lookup_replace, hp]
    rfl
  next hbound =>
    have hnone : names.lookup name = none := by
      refine List.lookup_eq_none_iff.2 fun entry hentry => ?_
      rw [bne_iff_ne]
      rintro rfl
      exact hbound (List.any_eq_true.2 ⟨entry, hentry, beq_self_eq_true _⟩)
    rw [List.lookup_append]
    by_cases hother : other = name
    · simp [hother, hnone]
    · rw [lookup_cons_of_ne hother, List.lookup_nil, Option.or_none, if_neg hother]

def Class.shape (c : Class) : Shape := c.fields.map fun f => (f.alias', f.required)

namespace Imported

def Extends (m m' : Imported) : Prop :=
  ∀ (index : Nat) (s : ModelState), m.models[index]? = some s →
    ∃ s' : ModelState,
      m'.models[index]? = some s' ∧ s'.shape = s.shape ∧ (s.isComplete → s'.isComplete)

theorem Extends.refl (m : Imported) : m.Extends m := fun _ s hs => ⟨s, hs, rfl, id⟩

theorem Extends.trans {m m' m'' : Imported} (h : m.Extends m') (h' : m'.Extends m'') :
    m.Extends m'' := by
  intro index s hs
  obtain ⟨s', hs', hshape, hcomplete⟩ := h index s hs
  obtain ⟨s'', hs'', hshape', hcomplete'⟩ := h' index s' hs'
  exact ⟨s'', hs'', hshape'.trans hshape, hcomplete' ∘ hcomplete⟩

theorem models_setModel (m : Imported) {index : Nat} {s : ModelState}
    (h : m.models[index]? = some s) (s' : ModelState) :
    (m.setModel index s').models[index]? = some s' := by
  have hlt : index < m.models.length := (List.getElem?_eq_some_iff.1 h).1
  exact List.getElem?_set_self hlt

theorem extends_setModel {m : Imported} {index : Nat} {s s' : ModelState}
    (h : m.models[index]? = some s) (hshape : s'.shape = s.shape)
    (hcomplete : s.isComplete → s'.isComplete) : m.Extends (m.setModel index s') := by
  intro other t ht
  by_cases hother : index = other
  · subst hother
    obtain rfl := Option.some.inj (h.symm.trans ht)
    exact ⟨s', models_setModel m h s', hshape, hcomplete⟩
  · refine ⟨t, ?_, rfl, id⟩
    rw [← ht]
    exact List.getElem?_set_ne hother

theorem models_push (m : Imported) (s : ModelState) :
    ({ m with models := m.models ++ [s] } : Imported).models[m.models.length]? = some s :=
  List.getElem?_concat_length

theorem extends_push (m : Imported) (s : ModelState) :
    m.Extends { m with models := m.models ++ [s] } := by
  intro index t ht
  refine ⟨t, ?_, rfl, id⟩
  have hlt : index < m.models.length := (List.getElem?_eq_some_iff.1 ht).1
  rw [← ht]
  exact List.getElem?_append_left hlt

end Imported

/-- What is documented of the library: a class statement binds a model with the fields of its class,
an attempt to complete a model changes nothing but what is known of this model, and a complete model
describes itself by its fields. -/
structure ModelLibrary.Keeps (library : ModelLibrary) : Prop where
  create : ∀ {m m' : Imported} {c : Class} {names : List (String × Object)},
    library.create m c names = .ok m' →
      m'.names = rebind m.names c.title (.model m.models.length c.title) ∧ m.Extends m' ∧
        ∃ s, m'.models[m.models.length]? = some s ∧ s.shape = c.shape
  complete : ∀ {m m' : Imported} {index : Nat} {s : ModelState} {fault : Option Fault},
    m.models[index]? = some s → library.complete m index s = (m', fault) →
      m'.names = m.names ∧ m.Extends m' ∧
        (fault = none → ∃ s', m'.models[index]? = some s' ∧ s'.isComplete)
  describe : ∀ {s : ModelState} {shape : Shape},
    s.isComplete → library.describe s = .ok shape → shape = s.shape

namespace Imported

def Holds (m : Imported) : Item → Object → Prop
  | .lateAnnotations, o => o = .feature
  | .imported module, o => o = .library module
  | .typeAlias _ _, o => ∃ index title, o = .typeAlias index title
  | .classDef c, o =>
    if c.isModel then
      ∃ index title s, o = .model index title ∧ m.models[index]? = some s ∧ s.shape = c.shape
    else o = .client c.title

theorem Holds.mono {m m' : Imported} {item : Item} {o : Object} (h : m.Holds item o)
    (hextends : m.Extends m') : m'.Holds item o := by
  cases item with
  | classDef c =>
    simp only [Holds] at h ⊢
    split
    next hmodel =>
      rw [if_pos hmodel] at h
      obtain ⟨index, title, s, ho, hs, hshape⟩ := h
      obtain ⟨s', hs', hshape', -⟩ := hextends index s hs
      exact ⟨index, title, s', ho, hs', hshape'.trans hshape⟩
    next hmodel =>
      rw [if_neg hmodel] at h
      exact h
  | lateAnnotations => exact h
  | imported module => exact h
  | typeAlias name value => exact h

end Imported

namespace Imported

section

variable {library : ModelLibrary} (hkeeps : library.Keeps)
include hkeeps

theorem add_spec {m m' : Imported} {item : Item} (h : m.add library item = .ok m') :
    m.Extends m' ∧
      ∃ o, m'.names = rebind m.names item.title o ∧ m'.Holds item o := by
  cases item with
  | lateAnnotations =>
    obtain rfl := Except.ok.inj h
    exact ⟨.refl m, _, rfl, rfl⟩
  | imported module =>
    obtain rfl := Except.ok.inj h
    exact ⟨.refl m, _, rfl, rfl⟩
  | typeAlias name value =>
    obtain ⟨t, -, h⟩ := Outcome.bind_eq_ok.1 h
    obtain rfl := Except.ok.inj h
    exact ⟨.refl m, _, rfl, _, _, rfl⟩
  | classDef c =>
    simp only [add] at h
    split at h
    next hmodel =>
      obtain ⟨bases, -, h⟩ := Outcome.bind_eq_ok.1 h
      obtain ⟨-, -, h⟩ := Outcome.bind_eq_ok.1 h
      obtain ⟨names, -, h⟩ := Outcome.bind_eq_ok.1 h
      obtain ⟨hnames, hextends, s, hs, hshape⟩ := hkeeps.create h
      refine ⟨hextends, _, hnames, ?_⟩
      simp only [Holds, if_pos hmodel]
      exact ⟨_, _, s, rfl, hs, hshape⟩
    next hmodel =>
      unfold addClient at h
      split at h
      · cases h
      · obtain rfl := Except.ok.inj h
        refine ⟨.refl m, _, rfl, ?_⟩
        simp only [Holds, if_neg hmodel]

def Sees (before m : Imported) (name : String) : Option Item → Prop
  | some item => ∃ o, m.names.lookup name = some o ∧ m.Holds item o
  | none => m.names.lookup name = before.names.lookup name

theorem sees_of_foldlM {items : List Item} {m m' : Imported}
    (h : items.foldlM (add library) m = .ok m') :
    m.Extends m' ∧
      ∀ name, Sees m m' name (items.reverse.find? fun item => item.title = name) := by
  induction items generalizing m with
  | nil =>
    obtain rfl := Except.ok.inj h
    exact ⟨.refl m, fun _ => rfl⟩
  | cons item rest ih =>
    rw [List.foldlM_cons] at h
    obtain ⟨m₁, hadd, hrest⟩ := Outcome.bind_eq_ok.1 h
    obtain ⟨hfirst, o, hnames, hholds⟩ := add_spec hkeeps hadd
    obtain ⟨hextends, hsees⟩ := ih hrest
    refine ⟨hfirst.trans hextends, fun name => ?_⟩
    have hlater := hsees name
    rw [List.reverse_cons, List.find?_append]
    cases hfound : rest.reverse.find? fun item => item.title = name with
    | some later => rwa [hfound] at hlater
    | none =>
      rw [hfound] at hlater
      have hlater : m'.names.lookup name = m₁.names.lookup name := hlater
      rw [hnames, lookup_rebind] at hlater
      by_cases htitle : name = item.title
      · rw [if_pos htitle] at hlater
        simpa [htitle] using ⟨o, htitle ▸ hlater, hholds.mono hextends⟩
      · rw [if_neg htitle] at hlater
        simpa [Sees, Ne.symm htitle] using hlater

end

end Imported

end Target

namespace Verify

theorem completeAll_spec {library : ModelLibrary} (hkeeps : library.Keeps) {m m' : Imported}
    {indices : List Nat} (h : completeAll library m indices = .ok (m', [])) :
    m'.names = m.names ∧ m.Extends m' ∧
      ∀ index ∈ indices, ∀ s, m.models[index]? = some s →
        ∃ s', m'.models[index]? = some s' ∧ s'.isComplete := by
  induction indices generalizing m with
  | nil =>
    cases h
    exact ⟨rfl, .refl _, by simp⟩
  | cons index rest ih =>
    rw [completeAll] at h
    split at h
    next hdone =>
      obtain ⟨hnames, hextends, hall⟩ := ih h
      refine ⟨hnames, hextends, fun i hi s hs => ?_⟩
      rcases List.mem_cons.1 hi with rfl | hi
      · rw [hs] at hdone
        obtain ⟨s', hs', -, hcomplete⟩ := hextends i s hs
        exact ⟨s', hs', hcomplete (by simpa using hdone)⟩
      · exact hall i hi s hs
    next s hwaiting =>
      obtain ⟨hs, -⟩ := Option.filter_eq_some_iff.1 hwaiting
      split at h
      next m₁ hresult =>
        obtain ⟨hnames₁, hextends₁, hdone⟩ := hkeeps.complete hs hresult
        obtain ⟨hnames, hextends, hall⟩ := ih h
        refine ⟨hnames.trans hnames₁, hextends₁.trans hextends, fun i hi t ht => ?_⟩
        rcases List.mem_cons.1 hi with rfl | hi
        · obtain ⟨s', hs', hcomplete⟩ := hdone rfl
          obtain ⟨s'', hs'', -, hstill⟩ := hextends i s' hs'
          exact ⟨s'', hs'', hstill hcomplete⟩
        · obtain ⟨t', ht', -⟩ := hextends₁ i t ht
          exact hall i hi t' ht'
      next m₁ cause hresult =>
        split at h
        · obtain ⟨⟨m₂, mismatches⟩, -, h⟩ := Outcome.bind_eq_ok.1 h
          cases h
        · cases h

end Verify

end TypedClient
