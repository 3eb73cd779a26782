import Mathlib.Data.Set.Insert
import Mathlib.Logic.Relation

namespace TypedClient.Target

open Relation

inductive Entry.Kind
  | model
  | compound
  | synonym
  deriving DecidableEq

structure Entry where
  name : String
  kind : Entry.Kind
  mentions : List String

namespace Entry

def Binds (es : Set Entry) (n : String) : Prop := ∃ e ∈ es, e.name = n

def Mentions (es : Set Entry) (n n' : String) : Prop := ∃ e ∈ es, e.name = n ∧ n' ∈ e.mentions

def Stands (es : Set Entry) (n n' : String) : Prop :=
  ∃ e ∈ es, e.name = n ∧ e.kind = .synonym ∧ n' ∈ e.mentions

def Reaches (es : Set Entry) : String → String → Prop := ReflTransGen (Mentions es)

/-- All that a definition names is there when a new model is made. A model can name the new one,
which a module has only afterwards. -/
def Ready (before : Set Entry) (new e : Entry) : Prop :=
  ∀ n ∈ e.mentions, Binds before n ∨ n = new.name ∧ e.kind = .model

/-- All that a new model leads to is there, and some of it stands for itself in the end. -/
structure ClosesCircle (before : Set Entry) (new : Entry) : Prop where
  ready : ∀ e ∈ insert new before,
    Reaches (insert new before) new.name e.name → Ready before new e
  circle : ∃ n, Reaches (insert new before) new.name n ∧ TransGen (Stands before) n n

/-- All that a definition leads to is there, and none of it stands for itself. -/
def Closed (es : Set Entry) (n : String) : Prop :=
  ∀ e ∈ es, Reaches es n e.name →
    (∀ n' ∈ e.mentions, Binds es n') ∧ ¬TransGen (Stands es) e.name e.name

variable {es : Set Entry} {new : Entry} {n x y : String}

theorem Stands.mentions (h : Stands es x y) : Mentions es x y := by
  obtain ⟨e, he, hname, -, hy⟩ := h
  exact ⟨e, he, hname, hy⟩

theorem Binds.insert (h : Binds es n) : Binds (insert new es) n := by
  obtain ⟨e, he, hname⟩ := h
  exact ⟨e, Set.mem_insert_of_mem _ he, hname⟩

theorem Mentions.insert (h : Mentions es x y) : Mentions (insert new es) x y := by
  obtain ⟨e, he, hname, hy⟩ := h
  exact ⟨e, Set.mem_insert_of_mem _ he, hname, hy⟩

theorem stands_insert_model (hmodel : new.kind = .model) :
    Stands (insert new es) x y ↔ Stands es x y := by
  constructor
  · rintro ⟨e, he, hname, hkind, hy⟩
    rcases Set.mem_insert_iff.1 he with rfl | he
    · rw [hmodel] at hkind
      cases hkind
    · exact ⟨e, he, hname, hkind, hy⟩
  · rintro ⟨e, he, hname, hkind, hy⟩
    exact ⟨e, Set.mem_insert_of_mem _ he, hname, hkind, hy⟩

theorem transGen_stands_insert_model (hmodel : new.kind = .model) :
    TransGen (Stands (insert new es)) x y ↔ TransGen (Stands es) x y := by
  have hstands : Stands (insert new es) = Stands es :=
    funext fun x => funext fun y => propext (stands_insert_model hmodel)
  rw [hstands]

section

variable (hclosed : Closed es n) (hfresh : ¬Binds es new.name)
include hclosed hfresh

theorem Closed.mentions_of_insert (hx : Reaches es n x) (hbound : Binds es x)
    (h : Mentions (insert new es) x y) : Mentions es x y ∧ Binds es y := by
  obtain ⟨e, he, rfl, hy⟩ := h
  have he : e ∈ es := by
    refine (Set.mem_insert_iff.1 he).resolve_left ?_
    rintro rfl
    exact hfresh hbound
  exact ⟨⟨e, he, rfl, hy⟩, (hclosed e he hx).1 y hy⟩

theorem Closed.reaches_of_insert (hbound : Binds es n) (h : Reaches (insert new es) n x) :
    Reaches es n x ∧ Binds es x := by
  induction h with
  | refl => exact ⟨.refl, hbound⟩
  | tail _ hstep ih =>
    obtain ⟨hmention, hy⟩ := hclosed.mentions_of_insert hfresh ih.1 ih.2 hstep
    exact ⟨ih.1.tail hmention, hy⟩

theorem Closed.stands_of_insert (hx : Reaches es n x) (hbound : Binds es x)
    (h : TransGen (Stands (insert new es)) x y) :
    TransGen (Stands es) x y ∧ Reaches es n y ∧ Binds es y := by
  have hstep : ∀ {x y}, Reaches es n x → Binds es x → Stands (insert new es) x y →
      Stands es x y ∧ Reaches es n y ∧ Binds es y := by
    intro x y hx hbound hstands
    obtain ⟨hmention, hy⟩ := hclosed.mentions_of_insert hfresh hx hbound hstands.mentions
    refine ⟨?_, hx.tail hmention, hy⟩
    obtain ⟨e, he, hname, hkind, hmem⟩ := hstands
    refine ⟨e, (Set.mem_insert_iff.1 he).resolve_left ?_, hname, hkind, hmem⟩
    rintro rfl
    exact hfresh (hname ▸ hbound)
  induction h with
  | single h =>
    obtain ⟨hstands, hy⟩ := hstep hx hbound h
    exact ⟨.single hstands, hy⟩
  | tail _ h ih =>
    obtain ⟨hchain, hreach, hthere⟩ := ih
    obtain ⟨hstands, hy⟩ := hstep hreach hthere h
    exact ⟨hchain.tail hstands, hy⟩

theorem Closed.insert (hbound : Binds es n) : Closed (insert new es) n := by
  intro e he hreach
  obtain ⟨hreach, hthere⟩ := hclosed.reaches_of_insert hfresh hbound hreach
  have hmem : e ∈ es := by
    refine (Set.mem_insert_iff.1 he).resolve_left ?_
    rintro rfl
    exact hfresh hthere
  obtain ⟨hmentions, hcircle⟩ := hclosed e hmem hreach
  refine ⟨fun n' hn' => (hmentions n' hn').insert, fun hback => hcircle ?_⟩
  exact (hclosed.stands_of_insert hfresh hreach hthere hback).1

end

theorem Closed.of_reaches (h : Closed es n) (hx : Reaches es n x) : Closed es x :=
  fun e he hreach => h e he (hx.trans hreach)

theorem closed_of_ready {before : Set Entry} (hmodel : new.kind = .model)
    (hready : ∀ e ∈ insert new before,
      Reaches (insert new before) new.name e.name → Ready before new e)
    (hcircle : ¬ClosesCircle before new) : Closed (insert new before) new.name := by
  intro e he hreach
  refine ⟨fun n hn => ?_, fun hback => hcircle ⟨hready, e.name, hreach, ?_⟩⟩
  · rcases hready e he hreach n hn with hbound | ⟨rfl, -⟩
    · exact hbound.insert
    · exact ⟨new, Set.mem_insert _ _, rfl⟩
  · exact (transGen_stands_insert_model hmodel).1 hback

end Entry

end TypedClient.Target
