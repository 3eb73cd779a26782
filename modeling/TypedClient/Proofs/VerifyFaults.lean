import TypedClient.Proofs.Generation
import TypedClient.Proofs.Importing
import TypedClient.Proofs.StandardCreation

namespace TypedClient

open Target

namespace Spec

variable {spec : Spec} {options : Options}

def known (spec : Spec) : List Meaning :=
  .imported "pydantic" :: (spec.definitions.flatMap Render.definitionTypes).flatMap (·.meanings)

def ownItems (spec : Spec) (options : Options) : List Item :=
  spec.definitions.map Render.definition ++ [.classDef (spec.client options)]

/-- No name is code, references are names of definitions alone, no two definitions have one name, no
name of a module or a type of the language is bound anew, and no field is bound as something that
its class has or looks up. -/
structure IsPlain (spec : Spec) (options : Options) : Prop where
  plain : (spec.module options).hasCode = false
  references : ∀ d ∈ spec.definitions, ∀ t ∈ Render.definitionTypes d, t.RefersPlainly
  titles : ∀ item ∈ spec.ownItems options, ¬Meaning.IsLibrary item.title ∧ IsOwn item.title
  distinct : (spec.definitions.map fun d => d.entry.name).Nodup
  fields : ∀ d ∈ spec.definitions, ∀ n ∈ d.boundFields,
    n ∉ (Definition.reservedNames (Render.definitionTypes d)).map Text.normal

theorem mem_known_of_mem_meanings {d : Definition} (hd : d ∈ spec.definitions) {t : TypeExpr}
    (ht : t ∈ Render.definitionTypes d) {k : Meaning} (hk : k ∈ t.meanings) : k ∈ spec.known :=
  List.mem_cons_of_mem _ (List.mem_flatMap.2 ⟨t, List.mem_flatMap.2 ⟨d, hd, ht⟩, hk⟩)

theorem provides_known (hplain : spec.IsPlain options) :
    ∀ k ∈ spec.known, spec.Provides k ∧ IsFirm k := by
  intro k hk
  rcases List.mem_cons.1 hk with rfl | hk
  · exact ⟨mem_imports_of_mem_fixed (by decide), List.mem_append_left _ (by decide)⟩
  · obtain ⟨t, ht, hk⟩ := List.mem_flatMap.1 hk
    have htypes : t ∈ spec.types := List.mem_append_left _ ht
    refine ⟨provides_type htypes k hk, ?_⟩
    have hknown := spec.knownTo_types t htypes k hk
    cases k with
    | imported q => exact Meaning.isLibrary_of_known hknown rfl
    | builtin b => exact Meaning.isLibrary_of_known hknown rfl
    | schema r =>
      obtain ⟨d, hd, ht⟩ := List.mem_flatMap.1 ht
      exact (hplain.references d hd t ht r (TypeExpr.mem_references.2 hk)).2

theorem normal_name {t : TypeExpr} (ht : t ∈ spec.types) {k : Meaning} (hk : k ∈ t.meanings) :
    Text.normal k.name = k.key := by
  have hwords : ∀ w ∈ Meaning.typeModules ++ Warning.builtinTypes, w ∈ hintWords := by decide
  have hknown := spec.knownTo_types t ht k hk
  cases k with
  | imported q => exact (isName_of_mem_hintWords (hwords q (List.mem_append_left _ hknown))).2
  | builtin b => exact (isName_of_mem_hintWords (hwords b (List.mem_append_right _ hknown))).2
  | schema r => rfl

theorem mem_types_of_mem {d : Definition} (hd : d ∈ spec.definitions) {t : TypeExpr}
    (ht : t ∈ Render.definitionTypes d) : t ∈ spec.types :=
  List.mem_append_left _ (List.mem_flatMap.2 ⟨d, hd, ht⟩)

theorem title_entry (hplain : spec.IsPlain options) {d : Definition} (hd : d ∈ spec.definitions) :
    ¬Meaning.IsLibrary d.entry.name ∧ IsOwn d.entry.name := by
  rw [← d.title_definition]
  exact hplain.titles _ (List.mem_append_left _ (List.mem_map_of_mem hd))

theorem fits_known (hplain : spec.IsPlain options) {d : Definition} (hd : d ∈ spec.definitions) :
    d.Fits spec.known where
  reads := by
    have hrefers := hplain.references d hd
    obtain ⟨⟨name, s⟩, -, rfl⟩ := List.mem_map.1 hd
    exact Definition.reads_ofSchema hrefers
  known t ht k hk := mem_known_of_mem_meanings hd ht hk
  keys t ht k hk := normal_name (mem_types_of_mem hd ht) hk
  title := (title_entry hplain hd).1
  own := (title_entry hplain hd).2
  free n hn t ht k hk := by
    rintro rfl
    refine hplain.fields d hd _ hn ?_
    rcases List.mem_cons.1 hk with rfl | hk
    · have hnormal := (isName_of_mem_hintWords (w := "pydantic") (by decide)).2
      exact List.mem_map.2 ⟨"pydantic", by simp [Definition.reservedNames], hnormal⟩
    · have hlookup : k.name ∈ TypeExpr.lookupsAll (Render.definitionTypes d) :=
        TypeExpr.mem_lookupsAll.2 ⟨t, ht, TypeExpr.name_mem_lookups hk⟩
      exact List.mem_map.2 ⟨k.name, by simp [Definition.reservedNames, hlookup],
        normal_name (mem_types_of_mem hd ht) hk⟩

variable {library : ModelLibrary}

theorem items_module (spec : Spec) (options : Options) :
    (spec.module options).items =
      .lateAnnotations :: (Render.imports spec.definitions spec.plans).map .imported
        ++ spec.ownItems options :=
  List.append_assoc _ _ _

theorem hasCode_module (spec : Spec) (options : Options) :
    (spec.module options).hasCode =
      ((spec.ownItems options).any Item.hasCode ||
        (((spec.ownItems options).flatMap Item.exprs).flatMap Expr.names).any
          (!Text.isIdentifier ·)) := by
  have hcode : (Item.lateAnnotations ::
      (Render.imports spec.definitions spec.plans).map .imported).any Item.hasCode = false := by
    simp [Item.hasCode]
  have hexprs : (Item.lateAnnotations ::
      (Render.imports spec.definitions spec.plans).map .imported).flatMap Item.exprs = [] := by
    simp [Item.exprs]
  rw [Module.hasCode, Module.exprs, items_module, List.any_append, hcode, List.flatMap_append,
    hexprs]
  rfl

/-- What names stand for before all definitions. -/
theorem exists_modules (spec : Spec) (number : Nat) (doc : String) :
    ∃ m, (.lateAnnotations :: (Render.imports spec.definitions spec.plans).map .imported).foldlM
        (Imported.add library) (Imported.start number doc) = .ok m ∧
      m.models = [] ∧ m.aliases = [] ∧
      (∀ q ∈ Render.imports spec.definitions spec.plans, m.names.lookup q = some (.library q)) ∧
      (∀ n, n ∉ fixedNames → n ∉ Render.imports spec.definitions spec.plans →
        m.names.lookup n = none) ∧
      ∀ n o, m.names.lookup n = some o → o.isOwn = false := by
  obtain ⟨m, hm, hmodels, haliases, hlookup⟩ :=
    Imported.add_modules (Render.imports spec.definitions spec.plans)
      ((Imported.start number doc).bind "annotations" .feature)
  refine ⟨m, hm, hmodels, haliases, fun q hq => (hlookup q).trans (if_pos hq), ?_, ?_⟩
  · intro n hfixed himport
    have hstart : (Imported.start number doc).names.map (·.1) ⊆ fixedNames := by
      simp [Imported.start, fixedNames]
    have hlate : n ≠ "annotations" := by
      rintro rfl
      exact hfixed (by decide)
    rw [hlookup, if_neg himport, Imported.lookup_bind, if_neg hlate]
    exact lookup_of_not_mem fun h => hfixed (hstart h)
  · intro n o ho
    have hstart : ∀ entry ∈ (Imported.start number doc).names, entry.2.isOwn = false := by
      simp only [Imported.start, List.forall_mem_cons]
      exact ⟨rfl, rfl, rfl, rfl, rfl, rfl, rfl, rfl, fun _ h => absurd h List.not_mem_nil⟩
    rw [hlookup, Imported.lookup_bind] at ho
    split at ho
    · exact Option.some.inj ho ▸ rfl
    · split at ho
      · exact Option.some.inj ho ▸ rfl
      · exact hstart _ (mem_of_lookup ho)

theorem whole_modules (hplain : spec.IsPlain options) (number : Nat) (doc : String) :
    ∃ m, (.lateAnnotations :: (Render.imports spec.definitions spec.plans).map .imported).foldlM
        (Imported.add library) (Imported.start number doc) = .ok m ∧ m.Whole spec.known ∧
      m.entries = ∅ ∧ ∀ d ∈ spec.definitions, m.names.lookup d.entry.name = none := by
  obtain ⟨m, hm, hmodels, haliases, himported, hunbound, hown⟩ := exists_modules spec number doc
  have hdefinition : ∀ n, IsOwn n → ¬Meaning.IsLibrary n → m.names.lookup n = none :=
    fun n hn hlibrary => hunbound n hn.1 fun himport =>
      hlibrary (List.mem_append_left _ (spec.imports_subset_moduleNames himport))
  have hschema : ∀ r, .schema r ∈ spec.known → m.names.lookup (Text.normal r) = none := by
    intro r hr
    have hfirm : IsFree (Text.normal r) := (provides_known hplain _ hr).2
    exact hdefinition _ hfirm.own hfirm.not_library
  obtain ⟨hwhole, hentries⟩ := Imported.whole_of_nothing hmodels haliases
    (fun k hk => (provides_known hplain k hk).2) hschema hown fun k hk => by
      obtain ⟨hprovides, hfirm⟩ := provides_known hplain k hk
      cases k with
      | imported q => exact himported q hprovides
      | builtin b =>
        have hmodule : ∀ b ∈ Warning.builtinTypes, b ∉ Warning.moduleNames := by decide
        exact hunbound b hfirm.key_not_mem fun h =>
          hmodule b hprovides (spec.imports_subset_moduleNames h)
      | schema r => exact fun o ho => by cases (hschema r hk).symm.trans ho
  refine ⟨m, hm, hwhole, hentries, fun d hd => ?_⟩
  obtain ⟨htitle, hfresh⟩ := title_entry hplain hd
  exact hdefinition _ hfresh htitle

def HasPrivateField (spec : Spec) : Prop := ∃ d ∈ spec.definitions, d.HasPrivateField

/-- A model leads to nothing but what is there when it is made, and to aliases that stand for each
other. -/
def ClosesCircle (spec : Spec) : Prop :=
  ∃ before d after, spec.definitions = before ++ d :: after ∧ d.entry.kind = .model ∧
    Target.Entry.ClosesCircle {e | ∃ d' ∈ before, e = d'.entry} d.entry

theorem refused_iff {m : Imported} (hentries : m.entries = ∅) :
    Definition.AnyRefused m.entries spec.definitions ↔
      spec.HasPrivateField ∨ spec.ClosesCircle := by
  simp only [Definition.AnyRefused, hentries, Set.union_empty, Definition.IsRefused]
  constructor
  · rintro ⟨before, d, after, heq, hprivate | hcircle⟩
    · exact .inl ⟨d, by simp [heq], hprivate⟩
    · exact .inr ⟨before, d, after, heq, hcircle⟩
  · rintro (⟨d, hd, hprivate⟩ | ⟨before, d, after, heq, hcircle⟩)
    · obtain ⟨before, after, heq⟩ := List.append_of_mem hd
      exact ⟨before, d, after, heq, .inl hprivate⟩
    · exact ⟨before, d, after, heq, .inr hcircle⟩

theorem import?_module (spec : Spec) (options : Options) (number : Nat) :
    (spec.module options).import? library number =
      ((.lateAnnotations :: (Render.imports spec.definitions spec.plans).map .imported).foldlM
          (Imported.add library) (Imported.start number (spec.module options).doc) >>= fun m =>
        (spec.definitions.map Render.definition).foldlM (Imported.add library) m >>= fun m =>
          m.add library (.classDef (spec.client options))) := by
  rw [Module.import?, items_module, List.foldlM_append, ownItems]
  simp only [List.foldlM_append, List.foldlM_cons, List.foldlM_nil, bind_pure]

section

variable (hdocumented : library.Documented) (hplain : spec.IsPlain options)
include hdocumented hplain

theorem import?_of_refused (h : spec.HasPrivateField ∨ spec.ClosesCircle) (number : Nat) :
    ∃ e, (spec.module options).import? library number = .error e ∧ e.spoilsImport = false := by
  obtain ⟨m, hmodules, hm, hentries, hfresh⟩ :=
    whole_modules hplain number (spec.module options).doc
  obtain ⟨hrefused, -⟩ := Imported.add_definitions hdocumented hm List.mem_cons_self
    (fun d hd => fits_known hplain hd) hplain.distinct hfresh
  obtain ⟨e, he, hspoils⟩ := hrefused ((refused_iff hentries).2 h)
  exact ⟨e, by rw [import?_module, hmodules, Outcome.ok_bind, he]; rfl, hspoils⟩

theorem import?_of_allowed (h : ¬(spec.HasPrivateField ∨ spec.ClosesCircle)) (number : Nat) :
    (∃ e, (spec.module options).import? library number = .error e ∧ e.spoilsImport = true) ∨
      ∃ m, (spec.module options).import? library number = .ok m ∧ m.Sound true spec.known := by
  obtain ⟨m, hmodules, hm, hentries, hfresh⟩ :=
    whole_modules hplain number (spec.module options).doc
  obtain ⟨-, hallowed⟩ := Imported.add_definitions hdocumented hm List.mem_cons_self
    (fun d hd => fits_known hplain hd) hplain.distinct hfresh
  obtain ⟨m₁, hdefinitions, hm₁⟩ := hallowed fun hrefused => h ((refused_iff hentries).1 hrefused)
  obtain ⟨htitle, hown⟩ :=
    hplain.titles (.classDef (spec.client options)) (List.mem_append_right _ List.mem_cons_self)
  rw [import?_module, hmodules, Outcome.ok_bind, hdefinitions, Outcome.ok_bind]
  exact Imported.add_client hm₁.toSound rfl htitle hown

end

section

variable {platform : Platform} (hdocumented : platform.models.Documented)
  (hplain : spec.IsPlain options)
include hdocumented hplain

theorem verify_of_refused (hreadable : (spec.module options).isReadable = true)
    (h : spec.HasPrivateField ∨ spec.ClosesCircle) {path : Path}
    (hpath : path.hasSuffix ".py" = true) (number : Nat) (other : Spec) :
    ∃ e, (spec.module options).verify platform path number options other =
      .error (.fault number e) := by
  obtain ⟨e, he, hspoils⟩ := import?_of_refused hdocumented hplain h number
  exact ⟨e, by simp [Module.verify, Module.examine, hpath, hplain.plain, hreadable, he, hspoils]⟩

theorem verify_of_allowed (h : ¬(spec.HasPrivateField ∨ spec.ClosesCircle)) (path : Path)
    (number : Nat) (other : Spec) :
    (spec.module options).verify platform path number options other =
        .error (.unimportable path) ∨
      ∃ report,
        (spec.module options).verify platform path number options other = .ok report := by
  unfold Module.verify
  split
  · exact .inl rfl
  rw [hplain.plain, if_neg Bool.false_ne_true, Module.examine]
  split
  · exact .inl rfl
  rcases import?_of_allowed hdocumented hplain h number with ⟨e, he, hspoils⟩ | ⟨m, hm, hsound⟩
  · rw [he]
    exact .inl (by simp only [hspoils, if_true])
  · obtain ⟨report, hreport⟩ :=
      Verify.report_sound hdocumented hsound (spec.module options) options other
    rw [hm]
    exact .inr ⟨report, by simp only [hreport]; rfl⟩

end

def shop : Spec :=
  { endpoints := [{ path := "/pets", method := "get" }]
    schemas :=
      [("Tags", some (.array (.reference "Tag"))),
       ("Pet", some (.object
         [("name", .primitive "string" none), ("weight", .primitive "number" none),
          ("tags", .reference "Tags"), ("owner", .reference "Owner")] ["name"])),
       ("Tag", some (.object [("since", .primitive "string" (some "date"))] []))] }

def hidden : Spec := { schemas := [("Pet", some (.object [("_id", .primitive "string" none)] []))] }

end Spec

end TypedClient
