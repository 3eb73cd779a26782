import Mathlib.Data.List.Nodup
import TypedClient.Proofs.LetterCase
import TypedClient.Proofs.ParameterNames
import TypedClient.Proofs.PathTemplate
import TypedClient.Render

namespace TypedClient

open Target

namespace PathTemplate

theorem IsName.lowerLead {s : String} (h : IsName s) : IsName (Text.lowerLead s) := by
  obtain ⟨hne, hopen, hclose⟩ := h
  refine ⟨fun hempty => ?_, Text.not_mem_lowerLead (by simp) hopen,
    Text.not_mem_lowerLead (by simp) hclose⟩
  have hnil := congrArg String.toList hempty
  unfold Text.lowerLead at hnil
  split at hnil
  next hs => exact hne (String.toList_injective hs)
  next c rest hs => simp [Text.lowerChar_ne_nil] at hnil

theorem IsName.padded {base name : String} (h : IsName base) (hp : Padded base name) :
    IsName name := by
  obtain ⟨hne, hopen, hclose⟩ := h
  obtain ⟨n, rfl⟩ := hp
  refine ⟨fun hempty => hne ?_, ?_, ?_⟩
  · exact (String.append_eq_empty_iff.1 hempty).1
  · simp [underscores, hopen]
  · simp [underscores, hclose]

def Piece.parts (part : String → FormatPart) (piece : Piece) : List FormatPart :=
  .text piece.literal :: (piece.placeholder?.map part).toList

theorem Piece.parts_rename (part : String → FormatPart) (newName : String → String)
    (piece : Piece) : (piece.rename newName).parts part = piece.parts (part ∘ newName) := by
  obtain ⟨literal, placeholder?⟩ := piece
  cases placeholder? <;> rfl

def placeholders (path : String) : List String := (split path).filterMap (·.placeholder?)

theorem mem_placeholders {path name : String} :
    name ∈ placeholders path ↔ ∃ piece ∈ split path, piece.placeholder? = some name :=
  List.mem_filterMap

end PathTemplate

namespace Target.FormatPart

def hole? : FormatPart → Option String
  | hole name => some name
  | text _ => none

def merge : String → List FormatPart → List FormatPart
  | pending, [] => if pending = "" then [] else [text pending]
  | pending, text s :: rest => merge (pending ++ s) rest
  | pending, hole name :: rest =>
    (if pending = "" then [] else [text pending]) ++ hole name :: merge "" rest

theorem filterMap_hole?_merge (pending : String) (parts : List FormatPart) :
    (merge pending parts).filterMap hole? = parts.filterMap hole? := by
  have hpending : ∀ s : String,
      (if s = "" then [] else [text s] : List FormatPart).filterMap hole? = [] := by
    intro s
    split <;> rfl
  induction parts generalizing pending with
  | nil => exact hpending pending
  | cons part rest ih =>
    cases part with
    | text s => rw [merge, ih, List.filterMap_cons_none rfl]
    | hole name =>
      rw [merge, List.filterMap_append, hpending, List.nil_append, List.filterMap_cons,
        List.filterMap_cons, ih]

end Target.FormatPart

namespace Render

def concat (parts : List FormatPart) : Expr := formattedPath (FormatPart.merge "" parts)

def holes : Expr → List String
  | .formatted parts => parts.filterMap FormatPart.hole?
  | _ => []

theorem holes_concat (parts : List FormatPart) :
    holes (concat parts) = parts.filterMap FormatPart.hole? := by
  rw [← FormatPart.filterMap_hole?_merge "" parts, concat]
  unfold formattedPath
  split
  next h => rw [h]; rfl
  next s h => rw [h]; rfl
  next => rfl

def braced (name : String) : FormatPart := .text ("\x7b" ++ name ++ "\x7d")

def pathOf (part : String → FormatPart) (path : String) : Expr :=
  concat ((PathTemplate.split path).flatMap (PathTemplate.Piece.parts part))

theorem holes_pathOf (part : String → FormatPart) (path : String) :
    holes (pathOf part path) =
      (PathTemplate.placeholders path).filterMap fun name => (part name).hole? := by
  rw [pathOf, holes_concat, PathTemplate.placeholders]
  induction PathTemplate.split path with
  | nil => rfl
  | cons piece rest ih =>
    rw [List.flatMap_cons, List.filterMap_append, ih]
    obtain ⟨literal, placeholder?⟩ := piece
    cases placeholder? with
    | none => rfl
    | some name =>
      cases hpart : part name <;>
        simp [PathTemplate.Piece.parts, List.filterMap_cons, hpart, FormatPart.hole?]

theorem pathOf_congr {part part' : String → FormatPart} {path : String}
    (h : ∀ name ∈ PathTemplate.placeholders path, part name = part' name) :
    pathOf part path = pathOf part' path := by
  unfold pathOf
  congr 1
  apply List.flatMap_congr
  intro piece hpiece
  obtain ⟨literal, placeholder?⟩ := piece
  cases placeholder? with
  | none => rfl
  | some name =>
    have hname := h name (PathTemplate.mem_placeholders.2 ⟨_, hpiece, rfl⟩)
    simp [PathTemplate.Piece.parts, hname]

theorem eq_of_pathOf_eq {part part' : String → FormatPart} {path : String}
    (hpart : ∀ name, part name = part' name ∨ (part name).hole?.isSome ∧ (part' name).hole? = .none)
    (h : pathOf part path = pathOf part' path) :
    ∀ name ∈ PathTemplate.placeholders path, part name = part' name := by
  intro name hname
  refine (hpart name).resolve_right fun ⟨hsome, hnone⟩ => ?_
  have hmono : ∀ n, (part' n).hole?.isSome → (part n).hole?.isSome := by
    intro n hn
    rcases hpart n with heq | ⟨hp, -⟩
    · rwa [heq]
    · exact hp
  have hholes := congrArg (List.length ∘ holes) h
  simp only [Function.comp_apply, holes_pathOf, List.length_filterMap_eq_countP] at hholes
  -- every hole of the second is one of the first, so that the first has one more at this place
  obtain ⟨before, after, hsplit⟩ := List.append_of_mem hname
  have hbefore := List.countP_mono_left (l := before) fun n _ => hmono n
  have hafter := List.countP_mono_left (l := after) fun n _ => hmono n
  have hcons : List.countP (fun n => (part n).hole?.isSome) (name :: after) =
      List.countP (fun n => (part n).hole?.isSome) after + 1 := List.countP_cons_of_pos hsome
  have hcons' : List.countP (fun n => (part' n).hole?.isSome) (name :: after) =
      List.countP (fun n => (part' n).hole?.isSome) after :=
    List.countP_cons_of_neg (by simp [hnone])
  rw [hsplit, List.countP_append, List.countP_append, hcons, hcons'] at hholes
  omega

def knownPart (known : List String) (name : String) : FormatPart :=
  if name ∈ known then .hole name else braced name

theorem pathParts_eq_merge (known : List String) (pending : String)
    (pieces : List PathTemplate.Piece) :
    pathParts known pending pieces =
      FormatPart.merge pending (pieces.flatMap (PathTemplate.Piece.parts (knownPart known))) := by
  induction pieces generalizing pending with
  | nil => rfl
  | cons piece rest ih =>
    obtain ⟨literal, placeholder?⟩ := piece
    cases placeholder? with
    | none =>
      rw [pathParts, ih]
      rfl
    | some name =>
      by_cases h : name ∈ known
      · simp [pathParts, h, ih, PathTemplate.Piece.parts, knownPart, FormatPart.merge]
      · simp [pathParts, h, ih, PathTemplate.Piece.parts, knownPart, braced, FormatPart.merge,
          PathTemplate.Piece.render, String.append_assoc]

theorem pathExpr_eq_pathOf (plan : Plan) :
    pathExpr plan =
      pathOf (knownPart (plan.pathParameters.map (·.name))) plan.pathTemplate := by
  rw [pathExpr, pathParts_eq_merge]
  rfl

theorem pathOf_rename (part : String → FormatPart) {newName : String → String} {path : String}
    (hnew : ∀ name ∈ PathTemplate.placeholders path, PathTemplate.IsName (newName name)) :
    pathOf part (PathTemplate.rename newName path) = pathOf (part ∘ newName) path := by
  have hsplit := PathTemplate.split_rename newName path fun piece hpiece name hname =>
    hnew name (PathTemplate.mem_placeholders.2 ⟨piece, hpiece, hname⟩)
  unfold pathOf
  rw [hsplit, List.flatMap_map]
  simp only [PathTemplate.Piece.parts_rename]

def declaredPart (parameters : List PlannedParameter) (source : String) : FormatPart :=
  match parameters.find? (·.sourceName = source) with
  | some p => .hole p.name
  | .none => braced source

end Render

namespace Plan

theorem renamed_eq {parameters : List PlannedParameter}
    (hnodup : (parameters.map (·.sourceName)).Nodup) (source : String) :
    renamed parameters source =
      ((parameters.find? (·.sourceName = source)).map (·.name)).getD source := by
  have hfind : parameters.reverse.find? (·.sourceName = source) =
      parameters.find? (·.sourceName = source) := by
    cases hlast : parameters.reverse.find? (·.sourceName = source) with
    | none =>
      rw [List.find?_eq_none] at hlast
      exact (List.find?_eq_none.2 fun p hp => hlast p (List.mem_reverse.2 hp)).symm
    | some q =>
      have hq := List.find?_some hlast
      have hqmem := List.mem_reverse.1 (List.mem_of_find?_eq_some hlast)
      cases hfirst : parameters.find? (·.sourceName = source) with
      | none => exact absurd hq (List.find?_eq_none.1 hfirst q hqmem)
      | some p =>
        have hp := List.find?_some hfirst
        have hpmem := List.mem_of_find?_eq_some hfirst
        simp only [decide_eq_true_eq] at hp hq
        rw [List.inj_on_of_nodup_map hnodup hqmem hpmem (hq.trans hp.symm)]
  rw [renamed, hfind]

theorem isName_renamed (endpoint : Endpoint) {source : String}
    (h : PathTemplate.IsName source) :
    PathTemplate.IsName (renamed (ofEndpoint endpoint).pathParameters source) := by
  unfold renamed
  cases hfind : (ofEndpoint endpoint).pathParameters.reverse.find? (·.sourceName = source) with
  | none => exact h
  | some p =>
    have hsource := List.find?_some hfind
    have hmem := List.mem_reverse.1 (List.mem_of_find?_eq_some hfind)
    simp only [decide_eq_true_eq] at hsource
    have hpadded := nameParameters_padded _ _ p (List.mem_filter.1 hmem).1
    rw [hsource] at hpadded
    exact h.lowerLead.padded hpadded

theorem knownPart_renamed_iff {parameters : List PlannedParameter}
    (hnodup : (parameters.map (·.sourceName)).Nodup) (source : String) :
    Render.knownPart (parameters.map (·.name)) (renamed parameters source) =
        Render.declaredPart parameters source ↔
      (source ∉ parameters.map (·.sourceName) → source ∉ parameters.map (·.name)) := by
  rw [renamed_eq hnodup]
  unfold Render.declaredPart Render.knownPart Render.braced
  cases hfind : parameters.find? (·.sourceName = source) with
  | none =>
    have hundeclared : source ∉ parameters.map (·.sourceName) := by
      simpa using List.find?_eq_none.1 hfind
    simp only [Option.map_none, Option.getD_none, hundeclared, not_false_eq_true, true_imp_iff]
    split
    next h => simp [h]
    next h => simp [h]
  | some p =>
    have hmem := List.mem_of_find?_eq_some hfind
    have hsource := List.find?_some hfind
    simp only [decide_eq_true_eq] at hsource
    have hdeclared : source ∈ parameters.map (·.sourceName) := hsource ▸ List.mem_map_of_mem hmem
    have hknown : p.name ∈ parameters.map (·.name) := List.mem_map_of_mem hmem
    simp only [Option.map_some, Option.getD_some, if_pos hknown, hdeclared, not_true_eq_false,
      false_imp_iff]

theorem knownPart_renamed_eq_or {parameters : List PlannedParameter}
    (hnodup : (parameters.map (·.sourceName)).Nodup) (source : String) :
    Render.knownPart (parameters.map (·.name)) (renamed parameters source) =
        Render.declaredPart parameters source ∨
      (Render.knownPart (parameters.map (·.name)) (renamed parameters source)).hole?.isSome ∧
        (Render.declaredPart parameters source).hole? = none := by
  by_cases h : Render.knownPart (parameters.map (·.name)) (renamed parameters source) =
      Render.declaredPart parameters source
  · exact .inl h
  · rw [knownPart_renamed_iff hnodup] at h
    obtain ⟨hundeclared, hknown⟩ := Classical.not_imp.1 h
    have hfind : parameters.find? (·.sourceName = source) = none := by
      simpa using hundeclared
    rw [not_not] at hknown
    refine .inr ⟨?_, ?_⟩
    · simp [renamed_eq hnodup, hfind, Render.knownPart, hknown, FormatPart.hole?]
    · simp [Render.declaredPart, hfind, Render.braced, FormatPart.hole?]

theorem nodup_sourceName_pathParameters {endpoint : Endpoint}
    (h : ((endpoint.parameters.filter (·.location = .path)).map (·.name)).Nodup) :
    ((ofEndpoint endpoint).pathParameters.map (·.sourceName)).Nodup := by
  have hdeclared := congrArg (List.map (·.1)) (map_declared_pathParameters endpoint)
  rw [List.map_map, List.map_map] at hdeclared
  exact hdeclared ▸ h

/-- The rendered path has the holes of the declared parameters and no others exactly when no
placeholder without a parameter is called as some parameter is called in the plan. -/
theorem pathExpr_ofEndpoint_eq_iff (endpoint : Endpoint)
    (hnodup : ((endpoint.parameters.filter (·.location = .path)).map (·.name)).Nodup) :
    Render.pathExpr (ofEndpoint endpoint) =
        Render.pathOf (Render.declaredPart (ofEndpoint endpoint).pathParameters) endpoint.path ↔
      ∀ source ∈ PathTemplate.placeholders endpoint.path,
        source ∉ (ofEndpoint endpoint).pathParameters.map (·.sourceName) →
          source ∉ (ofEndpoint endpoint).pathParameters.map (·.name) := by
  have hsource := nodup_sourceName_pathParameters hnodup
  have hname : ∀ source ∈ PathTemplate.placeholders endpoint.path,
      PathTemplate.IsName (renamed (ofEndpoint endpoint).pathParameters source) := by
    intro source hmem
    obtain ⟨piece, hpiece, hplaceholder⟩ := PathTemplate.mem_placeholders.1 hmem
    exact isName_renamed endpoint (PathTemplate.isName_of_mem_split hpiece hplaceholder)
  have hpath : Render.pathExpr (ofEndpoint endpoint) =
      Render.pathOf (Render.knownPart ((ofEndpoint endpoint).pathParameters.map (·.name)) ∘
        renamed (ofEndpoint endpoint).pathParameters) endpoint.path := by
    rw [Render.pathExpr_eq_pathOf]
    exact Render.pathOf_rename _ hname
  rw [hpath]
  constructor
  · intro h source hmem
    rw [← knownPart_renamed_iff hsource]
    exact Render.eq_of_pathOf_eq (knownPart_renamed_eq_or hsource) h source hmem
  · intro h
    apply Render.pathOf_congr
    intro source hmem
    exact (knownPart_renamed_iff hsource source).2 (h source hmem)

def capitalizedPair : Endpoint :=
  { path := "/{Id}/{id}/{ID}", method := "get"
    parameters :=
      [⟨"Id", .path, .primitive "string" none, true⟩,
       ⟨"id", .path, .primitive "string" none, true⟩] }

theorem pathExpr_capitalizedPair :
    ((capitalizedPair.parameters.filter (·.location = .path)).map (·.name)).Nodup ∧
      Render.pathExpr (ofEndpoint capitalizedPair) =
        Render.pathOf (Render.declaredPart (ofEndpoint capitalizedPair).pathParameters)
          capitalizedPair.path :=
  ⟨by decide, (pathExpr_ofEndpoint_eq_iff capitalizedPair (by decide)).2 (by decide +kernel)⟩

def capitalizedOne : Endpoint :=
  { path := "/a/{Id}/{id}", method := "get"
    parameters := [⟨"Id", .path, .primitive "string" none, true⟩] }

theorem pathExpr_capitalizedOne :
    ((capitalizedOne.parameters.filter (·.location = .path)).map (·.name)).Nodup ∧
      "id" ∈ PathTemplate.placeholders capitalizedOne.path ∧
      "id" ∉ capitalizedOne.parameters.map (·.name) ∧
      Render.holes (Render.pathExpr (ofEndpoint capitalizedOne)) = ["id", "id"] ∧
      Render.pathExpr (ofEndpoint capitalizedOne) ≠
        Render.pathOf (Render.declaredPart (ofEndpoint capitalizedOne).pathParameters)
          capitalizedOne.path := by
  refine ⟨by decide, by decide +kernel, by decide, by decide +kernel, fun h => ?_⟩
  have hholes := congrArg Render.holes h
  revert hholes
  decide +kernel

end Plan

end TypedClient
