import TypedClient.Proofs.Circles
import TypedClient.Proofs.Hints
import TypedClient.Proofs.ImportedModule
import TypedClient.Target.Imported.Creation
import TypedClient.Verify

/-!
What is documented of models whose hints are types of schemas: which of them can be made, and that
those that are made can be reported on.
-/

namespace TypedClient

open Target

def Meaning.key : Meaning → String
  | .imported q => q
  | .builtin b => b
  | .schema r => Text.normal r

namespace Target

def IsFirm : Meaning → Prop
  | .schema r => IsFree (Text.normal r)
  | m => Meaning.IsLibrary m.name

theorem IsFirm.key_not_mem {k : Meaning} (hk : IsFirm k) : k.key ∉ fixedNames := by
  have hfixed : ∀ n ∈ fixedNames, ¬Meaning.IsLibrary n := by
    unfold Meaning.IsLibrary
    decide
  cases k with
  | schema r => exact hk.own.1
  | imported q => exact fun hq => hfixed q hq hk
  | builtin b => exact fun hb => hfixed b hb hk

theorem lookup_of_not_mem {names : List (String × Object)} {name : String}
    (h : name ∉ names.map (·.1)) : names.lookup name = none := by
  refine List.lookup_eq_none_iff.2 fun entry hentry => ?_
  rw [bne_iff_ne]
  rintro rfl
  exact h (List.mem_map_of_mem hentry)

theorem getElem?_concat_iff {as : List α} {a b : α} {index : Nat} :
    (as ++ [a])[index]? = some b ↔ as[index]? = some b ∨ index = as.length ∧ b = a := by
  rcases Nat.lt_trichotomy index as.length with hlt | rfl | hgt
  · rw [List.getElem?_append_left hlt]
    simp [hlt.ne]
  · simp [eq_comm]
  · have hnone : ¬index < (as ++ [a]).length := by
      simp only [List.length_append, List.length_singleton]
      omega
    simp [hgt.ne', List.getElem?_eq_none hgt.le, List.getElem?_eq_none (Nat.not_lt.1 hnone)]

theorem passes_of_unbound {late : Bool} {names : List (String × Object)} {k : Meaning}
    (h : names.lookup k.key = none) : Sight.Passes late names k := by
  cases k with
  | schema r =>
    intro o ho
    have hnone : names.lookup (Text.normal r) = none := h
    rw [hnone] at ho
    cases ho
  | imported q => exact h
  | builtin b => exact h

def Object.isOwn : Object → Bool
  | .model .. => true
  | .typeAlias .. => true
  | .client _ => true
  | _ => false

def Reference.object : Reference → String → Object
  | .model index, name => .model index name
  | .alias index, name => .typeAlias index name

def ModelState.entry (s : ModelState) : Entry :=
  ⟨s.name, .model, s.fields.flatMap fun f => f.hint.mention?.toList⟩

def AliasState.entry (a : AliasState) : Entry :=
  ⟨a.name, if a.value.isName then .synonym else .compound, a.value.mention?.toList⟩

namespace Imported

def entryAt? (m : Imported) : Reference → Option Entry
  | .model index => (m.models[index]?).map ModelState.entry
  | .alias index => (m.aliases[index]?).map AliasState.entry

def entries (m : Imported) : Set Entry := {e | ∃ r, m.entryAt? r = some e}

theorem entryAt?_alias {m : Imported} {index : Nat} {a : AliasState}
    (ha : m.aliases[index]? = some a) : m.entryAt? (.alias index) = some a.entry :=
  Option.map_eq_some_iff.2 ⟨a, ha, rfl⟩

theorem entryAt?_model {m : Imported} {index : Nat} {s : ModelState}
    (hs : m.models[index]? = some s) : m.entryAt? (.model index) = some s.entry :=
  Option.map_eq_some_iff.2 ⟨s, hs, rfl⟩

structure Types (m : Imported) (t : Term) (o : Object) : Prop where
  named : o.leaf?.map (·.1) = t.mention?
  there : ∀ n r, o.leaf? = some (n, r) → ∃ e, m.entryAt? r = some e ∧ e.name = n

end Imported

structure ModelState.Sound (late : Bool) (known : List Meaning) (s : ModelState) : Prop where
  title : ¬Meaning.IsLibrary s.name
  hints : ∀ f ∈ s.fields, ∃ ms ⊆ known, FieldHint ms f.hint
  types : ∀ f ∈ s.fields, ∀ o, f.type = some o → o.IsType late
  described : s.undescribed = none

/-- Names stand for what they are meant for, in the module and in its definitions, and no definition
goes by a name that modules or classes have of themselves. -/
structure Imported.Sound (late : Bool) (known : List Meaning) (m : Imported) : Prop where
  firm : ∀ k ∈ known, IsFirm k
  shows : ∀ k ∈ known, m.sight.Shows late k
  own : ∀ n o, m.names.lookup n = some o → o.isOwn = true → IsOwn n
  aliases : ∀ a ∈ m.aliases, ∃ ms ⊆ known, Hint ms a.value
  models : ∀ s ∈ m.models, s.Sound late known

/-- Before the client class is bound, each definition is what its name stands for, and a complete
model leads to definitions that are there and to no circle. -/
structure Imported.Whole (known : List Meaning) (m : Imported) : Prop
    extends m.Sound false known where
  bound : ∀ r e, m.entryAt? r = some e → m.names.lookup e.name = some (r.object e.name)
  finds : ∀ r, .schema r ∈ known → ∀ o, m.names.lookup (Text.normal r) = some o →
    ∃ x e, m.entryAt? x = some e ∧ e.name = Text.normal r ∧ o = x.object (Text.normal r)
  typed : ∀ s ∈ m.models, ∀ f ∈ s.fields, ∀ o, f.type = some o → m.Types f.hint o
  closed : ∀ s ∈ m.models, s.isComplete = true → Entry.Closed m.entries s.name

structure Class.IsPlain (c : Class) (known : List Meaning) (m : Imported)
    (names : List (String × Object)) (hints : List Term) : Prop where
  title : ¬Meaning.IsLibrary c.title
  own : IsOwn c.title
  fresh : m.names.lookup c.title = none
  terms : c.fields.mapM (fun f => Imported.term f.hint) = .ok hints
  reads : ∀ t ∈ hints, ∃ ms ⊆ known, FieldHint ms t ∧ ∀ k ∈ ms, names.lookup k.key = none
  defaults : ∀ f ∈ c.fields, ∀ o : Object, o.IsType false →
    (o == (names.lookup f.name).getD .null) = false

def Class.entryOf (c : Class) (hints : List Term) : Entry :=
  ⟨c.title, .model, hints.flatMap fun t => t.mention?.toList⟩

/-- What is documented of the library where all names are what they are meant for. A field may not
be private. A model of other fields is made, with types as far as all names in them are there,
unless it closes a circle of aliases. An attempt to complete a model fails with a fault that is told,
and a complete model can be described. -/
structure ModelLibrary.Documented (library : ModelLibrary) : Prop extends library.Keeps where
  private_field : ∀ m c {names n},
    Imported.privateField? names = some n → library.create m c names = .error (.privateField n)
  circular : ∀ {known m c names hints}, m.Whole known → c.IsPlain known m names hints →
    Imported.privateField? names = none → Entry.ClosesCircle m.entries (c.entryOf hints) →
      ∃ n, library.create m c names = .error (.circular n)
  made : ∀ {known m c names hints}, m.Whole known → c.IsPlain known m names hints →
    Imported.privateField? names = none → ¬Entry.ClosesCircle m.entries (c.entryOf hints) →
      ∃ m', library.create m c names = .ok m' ∧ m'.Whole known ∧
        m'.entries = insert (c.entryOf hints) m.entries
  completed : ∀ {known m index s m' fault}, m.Sound true known → m.models[index]? = some s →
    library.complete m index s = (m', fault) →
      m'.Sound true known ∧ ∀ e, fault = some e → e.spoilsModel = true
  described : ∀ {late known s}, s.Sound late known → ∃ shape, library.describe s = .ok shape

namespace Imported

variable {late : Bool} {known : List Meaning} {m : Imported}

theorem lookup_bind (m : Imported) (name : String) (o : Object) (n : String) :
    (m.bind name o).names.lookup n = if n = name then some o else m.names.lookup n :=
  lookup_rebind m.names name n o

theorem Sound.bind (hm : m.Sound late known) {name : String} (hname : ¬Meaning.IsLibrary name)
    (hown : IsOwn name) {o : Object} (ho : o.IsPlain late) :
    (m.bind name o).Sound late known where
  firm := hm.firm
  shows k hk := by
    have hbefore := hm.shows k hk
    have hk := hm.firm k hk
    have hlookup : ∀ n, (m.bind name o).sight.names.lookup n =
        if n = name then some o else m.sight.names.lookup n :=
      m.lookup_bind name o
    cases k with
    | imported q =>
      have hne : q ≠ name := fun h => hname (h ▸ hk)
      exact (hlookup q).trans ((if_neg hne).trans hbefore)
    | builtin b =>
      have hne : b ≠ name := fun h => hname (h ▸ hk)
      exact (hlookup b).trans ((if_neg hne).trans hbefore)
    | schema r =>
      intro p hp
      rw [hlookup] at hp
      split at hp
      · exact Option.some.inj hp ▸ ho
      · exact hbefore p hp
  own n p hp hp_own := by
    rw [lookup_bind] at hp
    split at hp
    next hn => exact hn ▸ hown
    next => exact hm.own n p hp hp_own
  aliases := hm.aliases
  models := hm.models

theorem Sound.mono (hm : m.Sound false known) : m.Sound late known where
  firm := hm.firm
  shows k hk := by
    have hbefore := hm.shows k hk
    cases k with
    | schema r => exact fun o ho => (hbefore o ho).mono
    | imported q => exact hbefore
    | builtin b => exact hbefore
  own := hm.own
  aliases := hm.aliases
  models s hs :=
    have hs := hm.models s hs
    ⟨hs.title, hs.hints, fun f hf o ho => (hs.types f hf o ho).mono, hs.described⟩

structure Adds (m m' : Imported) (r : Reference) (e : Entry) : Prop where
  fresh : m.names.lookup e.name = none
  old : ∀ r' e', m.entryAt? r' = some e' → m'.entryAt? r' = some e'
  new : m'.entryAt? r = some e
  only : ∀ r' e', m'.entryAt? r' = some e' → m.entryAt? r' = some e' ∨ r' = r ∧ e' = e
  names : ∀ n, m'.names.lookup n =
    if n = e.name then some (r.object e.name) else m.names.lookup n

namespace Adds

variable {m' : Imported} {r : Reference} {e : Entry} (h : m.Adds m' r e)
include h

theorem entries_eq : m'.entries = insert e m.entries := by
  ext e'
  rw [Set.mem_insert_iff]
  constructor
  · rintro ⟨r', hr'⟩
    rcases h.only r' e' hr' with hold | ⟨-, rfl⟩
    · exact .inr ⟨r', hold⟩
    · exact .inl rfl
  · rintro (rfl | ⟨r', hr'⟩)
    · exact ⟨r, h.new⟩
    · exact ⟨r', h.old r' e' hr'⟩

theorem types {t : Term} {o : Object} (ho : m.Types t o) : m'.Types t o where
  named := ho.named
  there n r' hleaf := by
    obtain ⟨e', he', hname⟩ := ho.there n r' hleaf
    exact ⟨e', h.old r' e' he', hname⟩

variable (hm : m.Whole known)
include hm

theorem not_binds : ¬Entry.Binds m.entries e.name := by
  rintro ⟨e', ⟨r', hr'⟩, hname⟩
  have hbound := hm.bound r' e' hr'
  rw [hname, h.fresh] at hbound
  cases hbound

theorem bound : ∀ r' e', m'.entryAt? r' = some e' →
    m'.names.lookup e'.name = some (r'.object e'.name) := by
  intro r' e' hr'
  rw [h.names]
  rcases h.only r' e' hr' with hold | ⟨rfl, rfl⟩
  · rw [if_neg, hm.bound r' e' hold]
    exact fun hname => h.not_binds hm ⟨e', ⟨r', hold⟩, hname⟩
  · rw [if_pos rfl]

theorem finds : ∀ s, .schema s ∈ known → ∀ o, m'.names.lookup (Text.normal s) = some o →
    ∃ x e', m'.entryAt? x = some e' ∧ e'.name = Text.normal s ∧ o = x.object (Text.normal s) := by
  intro s hs o ho
  rw [h.names] at ho
  split at ho
  next hname =>
    refine ⟨r, e, h.new, hname.symm, ?_⟩
    rw [hname]
    exact (Option.some.inj ho).symm
  next =>
    obtain ⟨x, e', hx, hname, hobject⟩ := hm.finds s hs o ho
    exact ⟨x, e', h.old x e' hx, hname, hobject⟩

theorem closed {s : ModelState} (hs : s ∈ m.models) (hcomplete : s.isComplete = true) :
    Entry.Closed m'.entries s.name := by
  rw [h.entries_eq]
  refine (hm.closed s hs hcomplete).insert (h.not_binds hm) ?_
  obtain ⟨index, hindex, rfl⟩ := List.mem_iff_getElem.1 hs
  exact ⟨m.models[index].entry, ⟨_, entryAt?_model (List.getElem?_eq_getElem hindex)⟩, rfl⟩

end Adds

end Imported

end Target

namespace Verify

variable {library : ModelLibrary} (hdocumented : library.Documented) {known : List Meaning}
  {m : Imported}
include hdocumented

theorem completeAll_sound (hm : m.Sound true known) (indices : List Nat) :
    ∃ m' mismatches, completeAll library m indices = .ok (m', mismatches) ∧
      m'.Sound true known := by
  induction indices generalizing m with
  | nil => exact ⟨m, [], rfl, hm⟩
  | cons index rest ih =>
    rw [completeAll]
    split
    next => exact ih hm
    next s hwaiting =>
      have hs := (Option.filter_eq_some_iff.1 hwaiting).1
      split
      next m₁ hcomplete => exact ih (hdocumented.completed hm hs hcomplete).1
      next m₁ cause hcomplete =>
        obtain ⟨hm₁, htold⟩ := hdocumented.completed hm hs hcomplete
        obtain ⟨m', mismatches, hrest, hm'⟩ := ih hm₁
        rw [if_pos (htold cause rfl), hrest]
        exact ⟨m', _, rfl, hm'⟩

theorem checkSchemas_sound {late : Bool} (hm : m.Sound late known)
    (schemas : List (String × Schema)) :
    ∃ mismatches, checkSchemas library m schemas = .ok mismatches := by
  have hmodel : ∀ name properties required,
      ∃ mismatches, checkModel library m name properties required = .ok mismatches := by
    intro name properties required
    unfold checkModel
    dsimp only
    split
    next index title _ =>
      split
      · exact ⟨_, rfl⟩
      next s hs =>
        have hmem := List.mem_of_getElem? (Option.filter_eq_some_iff.1 hs).1
        obtain ⟨shape, hshape⟩ := hdocumented.described (hm.models s hmem)
        rw [hshape]
        exact ⟨_, rfl⟩
    next => exact ⟨_, rfl⟩
  have hschema : ∀ schema, ∃ mismatches, checkSchema library m schema = .ok mismatches := by
    rintro ⟨name, schema⟩
    cases schema with
    | object properties required => exact hmodel name properties required
    | _ => exact ⟨_, rfl⟩
  induction schemas with
  | nil => exact ⟨[], rfl⟩
  | cons schema rest ih =>
    obtain ⟨first, hfirst⟩ := hschema schema
    obtain ⟨others, hothers⟩ := ih
    rw [checkSchemas, hfirst, hothers]
    exact ⟨_, rfl⟩

theorem report_sound (hm : m.Sound true known) (source : Module) (options : Options)
    (other : Spec) : ∃ r, report library source m options other = .ok r := by
  obtain ⟨m', unresolved, hcomplete, hm'⟩ := completeAll_sound hdocumented hm (boundModels m)
  obtain ⟨definitions, hdefinitions⟩ := checkSchemas_sound hdocumented hm' other.definedSchemas
  rw [report, hcomplete]
  simp only [bind, Except.bind, hdefinitions]
  exact ⟨_, rfl⟩

end Verify

end TypedClient
