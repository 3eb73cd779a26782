import TypedClient.Proofs.Imports
import TypedClient.Proofs.Outcome
import TypedClient.Proofs.Scope
import TypedClient.Target.Imported.Completion

namespace TypedClient

open Target

namespace Target

/-! Faults that only put a type off. -/

inductive Fault.Waits (late : Bool) : Fault → Prop
  | undefined (name) : Waits late (.undefined name)
  | noSchema {o} : late = true → Waits late (.noSchema o)

/-- A value with the property, or a fault that waits. -/
def Settles (late : Bool) (P : α → Prop) : Outcome α → Prop
  | .ok a => P a
  | .error e => e.Waits late

namespace Settles

variable {late : Bool} {P Q : α → Prop}

theorem mono {x : Outcome α} (h : Settles late P x) (hPQ : ∀ a, P a → Q a) : Settles late Q x := by
  cases x with
  | ok a => exact hPQ a h
  | error e => exact h

theorem bind {R : β → Prop} {x : Outcome α} {f : α → Outcome β} (h : Settles late P x)
    (hf : ∀ a, P a → Settles late R (f a)) : Settles late R (x >>= f) := by
  cases x with
  | ok a => exact hf a h
  | error e => exact h

theorem mapM {R : β → Prop} {f : α → Outcome β} {as : List α}
    (h : ∀ a ∈ as, Settles late R (f a)) : Settles late (∀ b ∈ ·, R b) (as.mapM f) := by
  induction as with
  | nil => exact fun b hb => absurd hb List.not_mem_nil
  | cons a rest ih =>
    rw [List.mapM_cons]
    refine (h a List.mem_cons_self).bind fun b hb => ?_
    refine (ih fun a' ha' => h a' (List.mem_cons_of_mem _ ha')).bind fun bs hbs => ?_
    exact List.forall_mem_cons.2 ⟨hb, hbs⟩

end Settles

/-! Hints. -/

def libraryTypes : List (String × String) :=
  [("typing", "Any"), ("datetime", "datetime"), ("datetime", "date"), ("datetime", "time"),
   ("decimal", "Decimal"), ("uuid", "UUID")]

def fixedNames : List String :=
  ["__name__", "__doc__", "__package__", "__loader__", "__spec__", "__file__", "__cached__",
   "__builtins__", "annotations", "model_config", "__module__", "_abc_impl"]

def IsOwn (name : String) : Prop := name ∉ fixedNames ∧ isHidden name = false

/-- A name that stands for nothing but a definition. -/
structure IsFree (name : String) : Prop where
  not_library : ¬Meaning.IsLibrary name
  own : IsOwn name
  not_builtin : builtin? name = none

instance : DecidablePred Meaning.IsLibrary := fun _ => inferInstanceAs (Decidable (_ ∈ _))

instance : DecidablePred IsOwn := fun _ => inferInstanceAs (Decidable (_ ∧ _))

instance : DecidablePred IsFree := fun name =>
  decidable_of_iff (¬Meaning.IsLibrary name ∧ IsOwn name ∧ builtin? name = none)
    ⟨fun h => ⟨h.1, h.2.1, h.2.2⟩, fun h => ⟨h.not_library, h.own, h.not_builtin⟩⟩

/-- A hint, and what the names in it are meant for. -/
inductive Hint : List Meaning → Term → Prop
  | builtin {b} : b ∈ Warning.builtinTypes → Hint [.builtin b] (.name b)
  | library {q n} : (q, n) ∈ libraryTypes → Hint [.imported q] (.attribute (.name q) n)
  | schema {r} : IsFree (Text.normal r) → Hint [.schema r] (.name (Text.normal r))
  | list {ms t} : Hint ms t → Hint (.builtin "list" :: ms) (.subscript (.name "list") t)

inductive FieldHint : List Meaning → Term → Prop
  | plain {ms t} : Hint ms t → FieldHint ms t
  | optional {ms t} : Hint ms t →
      FieldHint (.imported "typing" :: ms)
        (.subscript (.attribute (.name "typing") "Optional") t)

def Term.mention? : Term → Option String
  | .name id => if Meaning.IsLibrary id then none else some id
  | .subscript _ index => index.mention?
  | _ => none

def Term.isName : Term → Bool
  | .name _ => true
  | _ => false

theorem mention?_library {name : String} (h : Meaning.IsLibrary name) :
    (Term.name name).mention? = none :=
  if_pos h

theorem IsFree.mention? {name : String} (h : IsFree name) :
    (Term.name name).mention? = some name :=
  if_neg h.not_library

theorem Hint.mention?_eq {ms : List Meaning} {t : Term} (h : Hint ms t) :
    (ms.filterMap Meaning.schema?).map Text.normal = t.mention?.toList := by
  induction h with
  | @builtin b hb =>
    rw [mention?_library (List.mem_append_right _ hb)]
    rfl
  | library _ => rfl
  | schema hfree =>
    rw [hfree.mention?]
    rfl
  | list _ ih => exact ih

theorem FieldHint.mention?_eq {ms : List Meaning} {t : Term} (h : FieldHint ms t) :
    (ms.filterMap Meaning.schema?).map Text.normal = t.mention?.toList := by
  cases h with
  | plain h => exact h.mention?_eq
  | optional h => exact h.mention?_eq

/-! Types. -/

namespace Object

def leaf? : Object → Option (String × Reference)
  | .model index name => some (name, .model index)
  | .typeAlias index name => some (name, .alias index)
  | .generic _ [o] => o.leaf?
  | .union _ [o, _] => o.leaf?
  | _ => none

inductive IsPlain (late : Bool) : Object → Prop
  | model (index name) : IsPlain late (.model index name)
  | typeAlias (index name) : IsPlain late (.typeAlias index name)
  | client (name) : late = true → IsPlain late (.client name)
  | builtin {b} : b ∈ Warning.builtinTypes → IsPlain late (.builtinClass b)
  | library {q n} : (q, n) ∈ libraryTypes → IsPlain late (.libraryClass q n)
  | list {o} : IsPlain late o → IsPlain late (.generic (.builtinClass "list") [o])

inductive IsType (late : Bool) : Object → Prop
  | plain {o} : IsPlain late o → IsType late o
  | optional {o} : IsPlain late o → IsType late (.union false [o, .null])

variable {late : Bool} {o : Object}

theorem IsPlain.mono (h : o.IsPlain false) : o.IsPlain late := by
  induction h with
  | model index name => exact .model index name
  | typeAlias index name => exact .typeAlias index name
  | client name h => cases h
  | builtin hb => exact .builtin hb
  | library hq => exact .library hq
  | list _ ih => exact .list ih

theorem IsType.mono (h : o.IsType false) : o.IsType late := by
  cases h with
  | plain h => exact .plain h.mono
  | optional h => exact .optional h.mono

theorem IsPlain.asType_eq (h : o.IsPlain late) (context : String) : asType context o = .ok o := by
  cases h <;> rfl

theorem IsPlain.choices_eq (h : o.IsPlain late) : choices o = [o] := by
  cases h <;> rfl

theorem IsPlain.indices_eq (h : o.IsPlain late) : indices o = [o] := by
  cases h <;> rfl

theorem IsPlain.isNull_eq (h : o.IsPlain late) : o.isNull = false := by
  cases h <;> rfl

theorem IsPlain.unhashable?_eq (h : o.IsPlain late) : unhashable? o = none := by
  induction h with
  | @library q n hq =>
    have hkinds : "_AnyMeta" ∉ unhashableKinds ∧ "type" ∉ unhashableKinds := by decide
    by_cases hn : n = "Any" <;> simp [unhashable?, kind, hn, hkinds]
  | list _ ih => simp [unhashable?, unhashableIn?, ih]
  | _ => rfl

theorem IsPlain.settle_eq (h : o.IsPlain late) (read : String → Outcome Object) :
    settle read o = .ok o := by
  induction h with
  | @list o h ih =>
    have hall : settleAll read [o] = .ok [o] := by
      cases h <;> simp only [settleAll, ih] <;> rfl
    simp only [settle, hall]
    rfl
  | _ => rfl

theorem beq_def (o o' : Object) : (o == o') = beq o o' := rfl

theorem IsPlain.choice_null (h : o.IsPlain late) :
    choice false [o, .null] = .ok (.union false [o, .null]) := by
  have hnull : unhashable? .null = none := rfl
  have hsame : same .null o = false := by
    cases h <;> simp [same, null, beq_def, beq]
  have hdistinct : distinct [o, .null] = [o, .null] := by
    simp [distinct, isIn, hsame]
  simp [choice, h.choices_eq, show choices .null = [.null] from rfl, unhashableIn?,
    h.unhashable?_eq, hnull, hdistinct]

theorem IsType.asType_eq (h : o.IsType late) (context : String) : asType context o = .ok o := by
  cases h with
  | plain h => exact h.asType_eq context
  | optional h => rfl

theorem IsType.settle_eq (h : o.IsType late) (read : String → Outcome Object) :
    settle read o = .ok o := by
  cases h with
  | plain h => exact h.settle_eq read
  | @optional p h =>
    have hall : settleAll read [p, .null] = .ok [p, .null] := by
      have hp := h.settle_eq read
      cases h <;> simp only [settleAll, hp] <;> rfl
    simp only [settle, hall]
    exact h.choice_null

theorem IsPlain.subscript_list (h : o.IsPlain late) :
    subscript (.builtinClass "list") o = .ok (.generic (.builtinClass "list") [o]) := by
  have hgeneric : genericClasses.contains "list" = true := rfl
  rw [subscript, hgeneric, if_pos rfl, h.indices_eq]

theorem IsType.ne_default (h : o.IsType late) :
    (∀ isRequired sourceName factory, (o == .field isRequired sourceName factory) = false) ∧
      (∀ entries, (o == .dict entries) = false) ∧ (o == .null) = false := by
  cases h with
  | plain h => cases h <;> simp [beq_def, beq, null]
  | optional h => simp [beq_def, beq, null]

end Object

/-! What is in sight. -/

namespace Sight

def Shows (late : Bool) (sight : Sight) : Meaning → Prop
  | .imported q => sight.names.lookup q = some (.library q)
  | .builtin b => sight.names.lookup b = none
  | .schema r => ∀ o, sight.names.lookup (Text.normal r) = some o → o.IsPlain late

def Passes (late : Bool) (names : List (String × Object)) : Meaning → Prop
  | .imported q => names.lookup q = none
  | .builtin b => names.lookup b = none
  | .schema r => ∀ o, names.lookup (Text.normal r) = some o → o.IsPlain late

variable {late : Bool} {sight : Sight} {names : List (String × Object)} {m : Meaning}

theorem Shows.within (h : sight.Shows late m) (hnames : Passes late names m) :
    (sight.within names).Shows late m := by
  cases m with
  | imported q =>
    have hnone : names.lookup q = none := hnames
    simpa [Shows, Sight.within, List.lookup_append, hnone] using h
  | builtin b =>
    have hnone : names.lookup b = none := hnames
    simpa [Shows, Sight.within, List.lookup_append, hnone] using h
  | schema r =>
    intro o ho
    rw [Sight.within, List.lookup_append, Option.or_eq_some_iff] at ho
    rcases ho with ho | ⟨-, ho⟩
    · exact hnames o ho
    · exact h o ho

theorem Passes.append {names' : List (String × Object)} (h : Passes late names m)
    (h' : Passes late names' m) : Passes late (names ++ names') m := by
  cases m with
  | imported q => exact List.lookup_append.trans (Option.or_eq_none_iff.2 ⟨h, h'⟩)
  | builtin b => exact List.lookup_append.trans (Option.or_eq_none_iff.2 ⟨h, h'⟩)
  | schema r =>
    intro o ho
    rw [List.lookup_append, Option.or_eq_some_iff] at ho
    rcases ho with ho | ⟨-, ho⟩
    · exact h o ho
    · exact h' o ho

theorem lookup_builtin (h : sight.names.lookup b = none) (hb : b ∈ Warning.builtinTypes) :
    sight.lookup b = .ok (.builtinClass b) := by
  have hclass : ∀ b ∈ Warning.builtinTypes, builtinClasses.contains b = true := by decide
  simp only [Sight.lookup, h, builtin?, hclass b hb, if_true]

end Sight

/-! What hints stand for. -/

section

variable {late : Bool} {sight : Sight} {ms : List Meaning} {t : Term}

theorem member_libraryTypes {q n : String} (h : (q, n) ∈ libraryTypes) :
    Object.member n (.library q) = .ok (.libraryClass q n) := by
  simp only [libraryTypes, List.mem_cons, List.not_mem_nil, or_false, Prod.mk.injEq] at h
  rcases h with ⟨rfl, rfl⟩ | ⟨rfl, rfl⟩ | ⟨rfl, rfl⟩ | ⟨rfl, rfl⟩ | ⟨rfl, rfl⟩ | ⟨rfl, rfl⟩ <;> rfl

theorem ofTerm_member {q n : String} {o : Object}
    (h : sight.names.lookup q = some (.library q))
    (hmember : Object.member n (.library q) = .ok o) :
    Object.ofTerm sight (.attribute (.name q) n) = .ok o := by
  have hmodule : Object.ofTerm sight (.name q) = .ok (.library q) := by
    simp [Object.ofTerm, Sight.lookup, h]
  rw [Object.ofTerm, hmodule]
  exact hmember

theorem ofTerm_list (h : sight.names.lookup "list" = none) (t : Term) :
    Object.ofTerm sight (.subscript (.name "list") t) =
      Object.ofTerm sight t >>= Object.subscript (.builtinClass "list") := by
  have hhead : Object.ofTerm sight (.name "list") = .ok (.builtinClass "list") := by
    rw [Object.ofTerm, Sight.lookup_builtin h (by decide)]
  rw [Object.ofTerm, hhead]
  rfl

/-- What a hint comes to that names this definition: a type with what the name stands for, or the
fault that there is no such name. -/
inductive Reads (P : Object → Prop) (sight : Sight) : Option String → Outcome Object → Prop
  | plain {o} : P o → o.leaf? = none → Reads P sight none (.ok o)
  | found {n p o} : P o → sight.names.lookup n = some p → o.leaf? = p.leaf? →
      Reads P sight (some n) (.ok o)
  | missing {n} : sight.names.lookup n = none → Reads P sight (some n) (.error (.undefined n))

theorem Reads.settles {P : Object → Prop} {n : Option String} {x : Outcome Object}
    (h : Reads P sight n x) : Settles late P x := by
  cases h with
  | plain ho _ => exact ho
  | found ho _ _ => exact ho
  | missing _ => exact .undefined _

theorem Reads.bind {P Q : Object → Prop} {n : Option String} {x : Outcome Object}
    {f : Object → Outcome Object} (h : Reads P sight n x)
    (hf : ∀ o, P o → ∃ o', f o = .ok o' ∧ Q o' ∧ o'.leaf? = o.leaf?) :
    Reads Q sight n (x >>= f) := by
  cases h with
  | @plain o ho hleaf =>
    obtain ⟨o', ho', hQ, hkept⟩ := hf o ho
    rw [Outcome.ok_bind, ho']
    exact .plain hQ (hkept.trans hleaf)
  | @found n p o ho hlookup hleaf =>
    obtain ⟨o', ho', hQ, hkept⟩ := hf o ho
    rw [Outcome.ok_bind, ho']
    exact .found hQ hlookup (hkept.trans hleaf)
  | missing hlookup => exact .missing hlookup

theorem Hint.reads (h : Hint ms t) (hshows : ∀ m ∈ ms, sight.Shows late m) :
    Reads (Object.IsPlain late) sight t.mention? (Object.ofTerm sight t) := by
  induction h with
  | @builtin b hb =>
    have hnone : sight.names.lookup b = none := hshows (.builtin b) (by simp)
    rw [Object.ofTerm, Sight.lookup_builtin hnone hb,
      mention?_library (List.mem_append_right _ hb)]
    exact .plain (.builtin hb) rfl
  | @library q n hq =>
    have hmodule : sight.names.lookup q = some (.library q) := hshows (.imported q) (by simp)
    rw [ofTerm_member hmodule (member_libraryTypes hq)]
    exact .plain (.library hq) rfl
  | @schema r hfree =>
    have hlookup := hshows (.schema r) (by simp)
    rw [Object.ofTerm, Sight.lookup, hfree.mention?]
    cases ho : sight.names.lookup (Text.normal r) with
    | some o => exact .found (hlookup o ho) ho rfl
    | none =>
      rw [hfree.not_builtin]
      exact .missing ho
  | @list ms t _ ih =>
    rw [ofTerm_list (hshows (.builtin "list") (by simp))]
    refine (ih fun m hm => hshows m (by simp [hm])).bind fun o ho => ?_
    exact ⟨_, ho.subscript_list, .list ho, by rw [Object.leaf?]⟩

theorem FieldHint.reads (h : FieldHint ms t) (hshows : ∀ m ∈ ms, sight.Shows late m) :
    Reads (Object.IsType late) sight t.mention? (Object.ofTerm sight t) := by
  cases h with
  | plain h =>
    rw [← bind_pure (Object.ofTerm sight t)]
    exact (h.reads hshows).bind fun o ho => ⟨o, rfl, .plain ho, rfl⟩
  | @optional ms t h =>
    have hmodule : sight.names.lookup "typing" = some (.library "typing") :=
      hshows (.imported "typing") (by simp)
    have hhead : Object.ofTerm sight (.attribute (.name "typing") "Optional") =
        .ok (.form "Optional") := ofTerm_member hmodule rfl
    rw [Object.ofTerm, hhead]
    refine (h.reads fun m hm => hshows m (by simp [hm])).bind fun o ho => ?_
    have hformed : Object.subscript (.form "Optional") o = .ok (.union false [o, .null]) := by
      rw [Object.subscript, Object.formedBy, ho.asType_eq]
      exact ho.choice_null
    exact ⟨_, hformed, .optional ho, by rw [Object.leaf?]⟩

theorem FieldHint.reads_ofHint (h : FieldHint ms t) (hshows : ∀ m ∈ ms, sight.Shows late m) :
    Reads (Object.IsType late) sight t.mention? (Object.ofHint sight t) := by
  refine (h.reads hshows).bind fun o ho => ⟨o, ?_, ho, rfl⟩
  rw [ho.asType_eq]
  exact ho.settle_eq _

theorem Hint.ofAlias_eq (h : Hint ms t) (hshows : ∀ m ∈ ms, sight.Shows late m) (inner : Sight) :
    Object.ofAlias sight inner t = Object.ofTerm sight t := by
  have hreads := h.reads hshows
  rw [Object.ofAlias]
  cases hterm : Object.ofTerm sight t with
  | error e => rfl
  | ok o =>
    rw [hterm] at hreads
    have ho : Settles late (Object.IsPlain late) (.ok o) := hreads.settles
    rw [Outcome.ok_bind]
    split
    next => cases ho
    next => exact Object.IsPlain.settle_eq ho _

theorem Hint.ofTerm_typeAlias_iff (h : Hint ms t) (hshows : ∀ m ∈ ms, sight.Shows late m)
    {index : Nat} {name : String} :
    Object.ofTerm sight t = .ok (.typeAlias index name) ↔
      t.isName = true ∧
        ∃ n, t.mention? = some n ∧ sight.names.lookup n = some (.typeAlias index name) := by
  cases h with
  | @builtin b hb =>
    have hnone : sight.names.lookup b = none := hshows (.builtin b) (by simp)
    rw [Object.ofTerm, Sight.lookup_builtin hnone hb,
      mention?_library (List.mem_append_right _ hb)]
    simp
  | @library q n hq =>
    have hmodule : sight.names.lookup q = some (.library q) := hshows (.imported q) (by simp)
    rw [ofTerm_member hmodule (member_libraryTypes hq)]
    simp [Term.isName]
  | @schema r hfree =>
    rw [Object.ofTerm, Sight.lookup, hfree.mention?]
    cases ho : sight.names.lookup (Text.normal r) with
    | some o => simp [ho, Term.isName]
    | none => simp [ho, hfree.not_builtin]
  | @list ms t h =>
    have hreads := h.reads fun m hm => hshows m (by simp [hm])
    rw [ofTerm_list (hshows (.builtin "list") (by simp))]
    cases hterm : Object.ofTerm sight t with
    | error e => simp [bind, Except.bind, Term.isName]
    | ok o =>
      rw [hterm] at hreads
      have ho : Settles late (Object.IsPlain late) (.ok o) := hreads.settles
      rw [Outcome.ok_bind, Object.IsPlain.subscript_list ho]
      simp [Term.isName]

end

end Target

end TypedClient
