import TypedClient.Platform
import TypedClient.Proofs.ImportedModule

namespace TypedClient.Target

namespace Imported

theorem shape_settledFields {sight : Sight} {fields fields' : List FieldState}
    (h : settledFields sight fields = .ok fields') :
    fields'.map (fun f => (f.sourceName, f.isRequired)) =
      fields.map fun f => (f.sourceName, f.isRequired) := by
  refine Outcome.map_of_mapM (fun f f' hf => ?_) h
  unfold settledField at hf
  split at hf
  · obtain rfl := Except.ok.inj hf
    rfl
  · obtain ⟨o, -, hf⟩ := Outcome.bind_eq_ok.1 hf
    obtain rfl := Except.ok.inj hf
    rfl

theorem shape_pendingFields {sight : Sight} {fields fields' : List FieldState}
    (h : pendingFields sight fields = .ok fields') :
    fields'.map (fun f => (f.sourceName, f.isRequired)) =
      fields.map fun f => (f.sourceName, f.isRequired) := by
  refine Outcome.map_of_mapM (fun f f' hf => ?_) h
  unfold pendingField at hf
  split at hf
  · split at hf
    · cases hf
    · obtain rfl := Except.ok.inj hf
      rfl
  · obtain rfl := Except.ok.inj hf
    rfl
  · cases hf

theorem complete_spec {m m' : Imported} {index : Nat} {s : ModelState} {fault : Option Fault}
    (hs : m.models[index]? = some s) (h : m.complete index s = (m', fault)) :
    m'.names = m.names ∧ m.Extends m' ∧
      (fault = none → ∃ s', m'.models[index]? = some s' ∧ s'.isComplete) := by
  unfold complete at h
  split at h
  next =>
    cases h
    exact ⟨rfl, .refl m, fun h => by cases h⟩
  next fields hfields =>
    have hshape := shape_settledFields hfields
    have hsettled : m.Extends (m.setModel index { s with fields }) :=
      extends_setModel hs hshape id
    have hs' := models_setModel m hs { s with fields }
    dsimp only at h
    split at h
    next =>
      cases h
      exact ⟨rfl, hsettled, fun h => by cases h⟩
    next t ht =>
      split at h
      next =>
        cases h
        exact ⟨rfl, hsettled, fun h => by cases h⟩
      next =>
        cases h
        refine ⟨rfl, hsettled.trans (extends_setModel hs' rfl fun _ => rfl), fun _ => ?_⟩
        exact ⟨_, models_setModel _ hs' _, rfl⟩

theorem shape_fieldStates {names : List (String × Object)} {fields : List ModelField}
    {states : List FieldState} (h : fields.mapM (fieldState names) = .ok states) :
    states.map (fun f => (f.sourceName, f.isRequired)) =
      fields.map fun f => (f.alias', f.required) := by
  refine Outcome.map_of_mapM (fun f f' hf => ?_) h
  obtain ⟨hint, -, hf⟩ := Outcome.bind_eq_ok.1 hf
  obtain rfl := Except.ok.inj hf
  rfl

theorem create_spec {m m' : Imported} {c : Class} {names : List (String × Object)}
    (h : m.create c names = .ok m') :
    m'.names = rebind m.names c.title (.model m.models.length c.title) ∧ m.Extends m' ∧
      ∃ s, m'.models[m.models.length]? = some s ∧ s.shape = c.shape := by
  unfold create at h
  split at h
  next => cases h
  next =>
    obtain ⟨states, hstates, h⟩ := Outcome.bind_eq_ok.1 h
    obtain ⟨fields, hfields, h⟩ := Outcome.bind_eq_ok.1 h
    have hshape := (shape_pendingFields hfields).trans (shape_fieldStates hstates)
    dsimp only at h
    generalize hresult : Imported.complete _ _ _ = result at h
    obtain ⟨m₁, fault⟩ := result
    dsimp only at h
    have hpushed := extends_push m ⟨c.title, fields, false, "", none⟩
    have hnew := models_push m ⟨c.title, fields, false, "", none⟩
    obtain ⟨hnames, hextends, -⟩ := complete_spec hnew hresult
    obtain ⟨s, hs, hs_shape, -⟩ := hextends _ _ hnew
    have hall := hpushed.trans hextends
    split at h
    next s' hs' =>
      obtain rfl := Except.ok.inj h
      obtain rfl := Option.some.inj (hs.symm.trans hs')
      refine ⟨?_, hall.trans (extends_setModel hs rfl id), ?_⟩
      · exact congrArg (rebind · _ _) hnames
      · exact ⟨_, models_setModel (m₁.bind _ _) hs' _, hs_shape.trans hshape⟩
    next => cases h
    next =>
      obtain rfl := Except.ok.inj h
      exact ⟨congrArg (rebind · _ _) hnames, hall, s, hs, hs_shape.trans hshape⟩

end Imported

theorem ModelLibrary.standard_keeps : ModelLibrary.standard.Keeps where
  create := Imported.create_spec
  complete := Imported.complete_spec
  describe {s shape} _ h := by
    change s.describe = .ok shape at h
    unfold ModelState.describe at h
    split at h
    · cases h
    · exact (Except.ok.inj h).symm

end TypedClient.Target
