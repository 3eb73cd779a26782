import Mathlib.Data.List.Forall2
import Mathlib.Logic.ExistsUnique
import TypedClient.Proofs.FieldNames

namespace TypedClient

open Target

namespace Target.Expr

def isWrapper : Expr → Bool
  | attr (name module) key => module = "typing" ∧ key = "Optional"
  | _ => false

def isWrapped : Expr → Bool
  | subscript head _ => head.isWrapper
  | _ => false

def wrappers (e : Expr) : Nat := e.subterms.countP isWrapper

def keywords : Expr → List (String × Expr)
  | call _ _ keywords => keywords
  | _ => []

theorem isWrapped_eq_false {e : Expr} (h : e.wrappers = 0) : e.isWrapped = false := by
  cases e with
  | subscript head index =>
    rw [wrappers, List.countP_eq_zero] at h
    have hhead : head ∈ (subscript head index).subterms := by cases head <;> simp [subterms]
    exact Bool.eq_false_iff.2 (h head hhead)
  | _ => rfl

theorem wrappers_wrap (e : Expr) :
    (subscript (attr (name "typing") "Optional") [e]).wrappers = e.wrappers + 1 := by
  simp [wrappers, subterms, subtermsAll, isWrapper]

end Target.Expr

namespace TypeExpr

theorem wrappers_leaf {name : String} {kind : Kind} (h : kind = .reference ∨ name ≠ "Optional") :
    (mk name kind []).toTarget.wrappers = 0 := by
  rw [toTarget_leaf, headTarget]
  cases hqualifier : (mk name kind []).qualifier? with
  | none => simp [Expr.wrappers, Expr.subterms, Expr.isWrapper]
  | some module =>
    rcases h with rfl | hname
    · simp [qualifier?] at hqualifier
    · simp [Expr.wrappers, Expr.subterms, Expr.isWrapper, TypeExpr.name, hname]

theorem wrappers_ofPrimitive (kind : String) (format : Option String) :
    (ofPrimitive kind format).toTarget.wrappers = 0 := by
  unfold ofPrimitive
  split
  · refine wrappers_leaf (.inr ?_)
    unfold stringType
    split <;> decide
  · exact wrappers_leaf (by decide)
  · refine wrappers_leaf (.inr ?_)
    unfold numberType
    split <;> decide
  · exact wrappers_leaf (by decide)
  · exact wrappers_leaf (by decide)

theorem wrappers_ofSchema : (s : Schema) → (ofSchema s).toTarget.wrappers = 0
  | .primitive kind format => wrappers_ofPrimitive kind format
  | .reference name => wrappers_leaf (.inl rfl)
  | .array item => by
    have hhead : (mk "list" .array [ofSchema item]).headTarget = .name "list" := rfl
    have hitem := wrappers_ofSchema item
    rw [Expr.wrappers] at hitem
    rw [ofSchema, toTarget_cons, hhead]
    simp [Expr.wrappers, Expr.subterms, Expr.subtermsAll, toTargets, Expr.isWrapper, hitem]
  | .object _ _ => wrappers_leaf (by decide)
  | .untyped => wrappers_leaf (by decide)

theorem toTarget_optional (t : TypeExpr) :
    t.optional.toTarget = .subscript (.attr (.name "typing") "Optional") [t.toTarget] := by
  have hhead : t.optional.headTarget = .attr (.name "typing") "Optional" := by
    simp [headTarget, optional, qualifier?, moduleOf, TypeExpr.name]
  rw [optional] at hhead ⊢
  rw [toTarget_cons, hhead]
  rfl

def zeros : List TypeExpr :=
  [mk "int" .integer [], mk "float" .number [], mk "Decimal" .number [], mk "bool" .boolean []]

theorem eq_leaf_of_mem_zeros {t : TypeExpr} (h : t ∈ zeros) :
    ∃ name kind, t = mk name kind [] ∧ kind ∈ [.integer, .number, .boolean] := by
  simp only [zeros, List.mem_cons, List.not_mem_nil, or_false] at h
  rcases h with rfl | rfl | rfl | rfl <;> exact ⟨_, _, rfl, by decide⟩

theorem ofPrimitive_cases (kind : String) (format : Option String) :
    (ofPrimitive kind format).kind = .string ∨ ofPrimitive kind format = any ∨
      ofPrimitive kind format ∈ zeros := by
  have hnumber : ∀ format, mk (numberType format) .number [] ∈ zeros := by
    intro format
    unfold numberType
    split <;> simp [zeros]
  unfold ofPrimitive
  split
  · exact .inl rfl
  · exact .inr (.inr (by simp [zeros]))
  · exact .inr (.inr (hnumber _))
  · exact .inr (.inr (by simp [zeros]))
  · exact .inr (.inl rfl)

theorem ofSchema_cases (s : Schema) :
    (ofSchema s).kind ∈ [.string, .array, .object, .reference] ∨ ofSchema s = any ∨
      ofSchema s ∈ zeros := by
  cases s with
  | primitive kind format =>
    have hkind : ∀ k : Kind, k = .string → k ∈ [.string, .array, .object, .reference] := by
      rintro k rfl
      exact List.mem_cons_self
    exact (ofPrimitive_cases kind format).imp_left (hkind _)
  | reference name => exact .inl (by simp [ofSchema, TypeExpr.kind])
  | array item => exact .inl (by simp [ofSchema, TypeExpr.kind])
  | object properties required => exact .inl (by simp [ofSchema, TypeExpr.kind])
  | untyped => exact .inr (.inl rfl)

end TypeExpr

namespace Render

def zeroTypes : List Expr :=
  [.name "int", .name "float", qualified "decimal" "Decimal", .name "bool"]

def fieldCall (args : List Expr) (keywords : List (String × Expr)) (source : String) : Expr :=
  .call (qualified "pydantic" "Field") args (keywords ++ [("alias", text source)])

inductive Way
  | nullable
  | untyped
  | zero

def Way.Fits (source : String) (type hint value : Expr) : Way → Prop
  | nullable =>
    hint = .subscript (qualified "typing" "Optional") [type] ∧ value = fieldCall [none] [] source
  | untyped => hint = type ∧ type = anyType ∧ value = fieldCall [none] [] source
  | zero =>
    hint = type ∧ type ∈ zeroTypes ∧ value = fieldCall [] [("default_factory", hint)] source

theorem Way.Fits.unique {source : String} {type hint value : Expr} {way way' : Way}
    (h : way.Fits source type hint value) (h' : way'.Fits source type hint value) : way = way' := by
  -- the factory tells zero from the others, and these differ in the head of the hint
  cases way <;> cases way' <;> grind [Way.Fits, zeroTypes, anyType, qualified, fieldCall]

/-- What is written for a field, by its property and the type of that. -/
structure Declares (required : List String) (source : String) (type hint value : Expr) : Prop where
  required_iff : source ∈ required ↔
    hint = type ∧ hint.isWrapped = false ∧ value = fieldCall [.constant .ellipsis] [] source
  default : source ∉ required → ∃! way : Way, way.Fits source type hint value
  factory : hint.isWrapped → ∀ factory, ("default_factory", factory) ∉ value.keywords
  wrappers : hint.wrappers = if hint.isWrapped then 1 else 0

theorem fieldDefault_factory {f : Field} {name : String} {kind : Kind}
    (hrequired : f.required = false) (hfactory : f.factory = some name) (hkind : kind ≠ .reference) :
    fieldDefault f =
      fieldCall [] [("default_factory", (TypeExpr.mk name kind []).toTarget)] f.sourceName := by
  rw [TypeExpr.toTarget_leaf, TypeExpr.headTarget, TypeExpr.qualifier?,
    if_neg fun h => hkind h.1]
  simp only [fieldDefault, hrequired, hfactory]
  cases TypeExpr.moduleOf name <;> rfl

theorem map_toTarget_zeros : TypeExpr.zeros.map TypeExpr.toTarget = zeroTypes := rfl

theorem Way.Fits.declares {required : List String} {source : String} {type hint value : Expr}
    {way : Way} (hrequired : source ∉ required) (htype : type.wrappers = 0)
    (h : way.Fits source type hint value) : Declares required source type hint value := by
  have hplain := Expr.isWrapped_eq_false htype
  have hdefault : ∃! way : Way, way.Fits source type hint value := ⟨way, h, fun _ h' => h'.unique h⟩
  cases way with
  | nullable =>
    obtain ⟨rfl, rfl⟩ := h
    refine ⟨iff_of_false hrequired ?_, fun _ => hdefault, ?_, ?_⟩
    · simp [fieldCall, none]
    · simp [fieldCall, Expr.keywords]
    · rw [qualified, Expr.wrappers_wrap, htype]
      rfl
  | untyped =>
    obtain ⟨rfl, -, rfl⟩ := h
    refine ⟨iff_of_false hrequired ?_, fun _ => hdefault, ?_, ?_⟩
    · simp [fieldCall, none]
    · simp [hplain]
    · simp [hplain, htype]
  | zero =>
    obtain ⟨rfl, -, rfl⟩ := h
    refine ⟨iff_of_false hrequired ?_, fun _ => hdefault, ?_, ?_⟩
    · simp [fieldCall]
    · simp [hplain]
    · simp [hplain, htype]

theorem declares_field {required : List String} {name source : String} {s : Schema} {f : Field}
    (hfield : f = Definition.field name source (.ofSchema s) (source ∈ required)) :
    Declares required source (TypeExpr.ofSchema s).toTarget f.type.toTarget (fieldDefault f) := by
  let type := TypeExpr.ofSchema s
  have htype : type.toTarget.wrappers = 0 := TypeExpr.wrappers_ofSchema s
  by_cases hrequired : source ∈ required
  · have hf : f = ⟨name, source, type, true, .none⟩ := by
      simp [hfield, type, Definition.field, TypeExpr.isNullable, hrequired]
    have hplain := Expr.isWrapped_eq_false htype
    rw [hf]
    refine ⟨iff_of_true hrequired ⟨rfl, hplain, rfl⟩, absurd hrequired, ?_, ?_⟩
    · simp [hplain]
    · simp [hplain, htype]
  · rcases TypeExpr.ofSchema_cases s with hkind | hany | hzero
    · have hf : f = ⟨name, source, type.optional, false, .none⟩ := by
        simp [hfield, type, Definition.field, TypeExpr.isNullable, hrequired, hkind]
      have hfits : Way.nullable.Fits source type.toTarget f.type.toTarget (fieldDefault f) := by
        rw [hf]
        exact ⟨type.toTarget_optional, rfl⟩
      exact hfits.declares hrequired htype
    · have hf : f = ⟨name, source, type, false, .none⟩ := by
        simp [hfield, type, Definition.field, TypeExpr.isNullable, hrequired, hany, TypeExpr.any,
          TypeExpr.kind]
      have hfits : Way.untyped.Fits source type.toTarget f.type.toTarget (fieldDefault f) := by
        rw [hf]
        exact ⟨rfl, congrArg TypeExpr.toTarget hany, rfl⟩
      exact hfits.declares hrequired htype
    · obtain ⟨n, kind, hleaf, hkind⟩ := TypeExpr.eq_leaf_of_mem_zeros hzero
      have hf : f = ⟨name, source, type, false, some n⟩ := by
        cases kind <;> simp [hfield, type, Definition.field, TypeExpr.isNullable, hrequired, hleaf,
          TypeExpr.kind, TypeExpr.name] at hkind ⊢
      have hreference : kind ≠ .reference := by
        rintro rfl
        simp at hkind
      have hfits : Way.zero.Fits source type.toTarget f.type.toTarget (fieldDefault f) := by
        have hmem : type.toTarget ∈ zeroTypes :=
          map_toTarget_zeros ▸ List.mem_map_of_mem hzero
        rw [hf, fieldDefault_factory rfl rfl hreference, ← hleaf]
        exact ⟨rfl, hmem, rfl⟩
      exact hfits.declares hrequired htype

end Render

namespace Definition

theorem forall₂_nameFields (required taken : List String) (typed : List (String × TypeExpr)) :
    List.Forall₂ (fun p f => f = field f.name p.1 p.2 (p.1 ∈ required)) typed
      (nameFields required taken typed) := by
  induction typed generalizing taken with
  | nil => exact .nil
  | cons p rest ih => exact .cons (by rw [name_field]) (ih _)

/-- Whatever the properties of an object are, its model declares a field for each. A field that may
be left out has a default, and that is a value of the field's type. -/
theorem ofSchema_object_declares (name : String) (properties : List (String × Schema))
    (required : List String) :
    ∃ fields c, ofSchema name (.object properties required) = model name fields ∧
      Render.definition (ofSchema name (.object properties required)) = .classDef c ∧
      c.body = .stmt Render.modelConfig :: fields.map (fun f => .stmt (Render.fieldStatement f)) ∧
      List.Forall₂ (fun p f => f.sourceName = p.1 ∧ (f.required ↔ p.1 ∈ required) ∧
        ∃ hint value, Render.fieldStatement f = .annotated f.name hint value ∧
          Render.Declares required p.1 (TypeExpr.ofSchema p.2).toTarget hint value)
        properties fields := by
  refine ⟨fields properties required, Render.modelClass name (fields properties required), rfl, rfl,
    rfl, ?_⟩
  have hfields := forall₂_nameFields required (reserved properties) (typed properties)
  rw [typed, List.forall₂_map_left_iff] at hfields
  refine hfields.imp fun p f hf => ?_
  refine ⟨?_, ?_, f.type.toTarget, Render.fieldDefault f, rfl, Render.declares_field hf⟩
  · rw [hf, sourceName_field]
  · rw [hf, required_field, decide_eq_true_iff]

end Definition

end TypedClient
