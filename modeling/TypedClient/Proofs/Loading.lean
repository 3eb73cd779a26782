import TypedClient.Proofs.Generation

/-!
How the loading of a document ends. What it gives is a map of a supported version, and what it
fails with is told to the user unless its location is no path, its bytes are no text, or its text
has a scalar without a value.
-/

namespace TypedClient

namespace Text

theorem exists_mem_splitChars {separator c : Char} (hc : c ≠ separator) (cs : List Char) :
    (∃ piece ∈ splitChars separator cs, c ∈ piece) ↔ c ∈ cs := by
  induction cs with
  | nil => simp [splitChars]
  | cons d rest ih =>
    rw [splitChars]
    split
    next hd =>
      have hne : c ≠ d := hd ▸ hc
      simp [ih, hne]
    next hd =>
      rw [List.mem_cons, ← ih]
      cases splitChars separator rest with
      | nil => simp
      | cons piece pieces => simp [or_assoc]

theorem mem_intercalate_singleton {separator c : Char} (hc : c ≠ separator)
    (pieces : List (List Char)) :
    c ∈ [separator].intercalate pieces ↔ ∃ piece ∈ pieces, c ∈ piece := by
  induction pieces with
  | nil => simp [List.intercalate]
  | cons piece rest ih =>
    cases rest with
    | nil => simp [List.intercalate]
    | cons next rest =>
      rw [List.intercalate_cons_cons, List.mem_append, List.mem_append, ih]
      simp [hc]

end Text

namespace Path

theorem mem_toString_ofString {c : Char} (hslash : c ≠ '/') (hdot : c ≠ '.') (s : String) :
    c ∈ (ofString s).toString.toList ↔ c ∈ s.toList := by
  have hroot : c ∉ (ofString s).root.toList := by
    have hroots : ∀ cs, rootOf cs ∈ ["/", "//", ""] := by
      intro cs
      unfold rootOf
      split <;> simp
    have hmem := hroots s.toList
    simp only [List.mem_cons, List.not_mem_nil, or_false] at hmem
    rcases hmem with h | h | h <;> simp [ofString, h, hslash]
  have hparts : c ∈ (ofString s).toString.toList ↔
      ∃ part ∈ (ofString s).parts, c ∈ part.toList := by
    rw [toString]
    split
    next hnone => simp [hnone.2, hdot]
    next =>
      rw [String.toList_append, List.mem_append, or_iff_right hroot, String.toList_intercalate]
      exact (Text.mem_intercalate_singleton hslash _).trans (by simp)
  rw [hparts, ← Text.exists_mem_splitChars hslash s.toList]
  constructor
  · rintro ⟨part, hpart, hc⟩
    obtain ⟨piece, hpiece, rfl⟩ := List.mem_map.1 (List.mem_filter.1 hpart).1
    exact ⟨piece, hpiece, by simpa using hc⟩
  · rintro ⟨piece, hpiece, hc⟩
    refine ⟨String.ofList piece, List.mem_filter.2 ⟨List.mem_map_of_mem hpiece, ?_⟩,
      by simpa using hc⟩
    -- a part that is left out has no other character than a dot
    rw [decide_eq_true_eq]
    constructor
    · rintro h
      have hnil : piece = [] := by simpa using h
      simp [hnil] at hc
    · rintro h
      have hsingle : piece = ['.'] := by
        simpa using congrArg String.toList h
      simp [hsingle, hdot] at hc

def Allows (c : Char) : Prop := c ≠ '\x00' ∧ (Text.isLone c → Text.isByte c)

theorem pathError?_eq_none {s : String} :
    FileSystem.pathError? (ofString s).toString = none ↔ ∀ c ∈ s.toList, Allows c := by
  have hsame : (∀ c ∈ s.toList, Allows c) ↔ ∀ c ∈ (ofString s).toString.toList, Allows c := by
    have hmarks : Allows '/' ∧ Allows '.' := by
      unfold Allows
      decide
    refine forall_congr' fun c => ?_
    by_cases hslash : c = '/'
    · simp [hslash, hmarks.1]
    · by_cases hdot : c = '.'
      · simp [hdot, hmarks.2]
      · rw [mem_toString_ofString hslash hdot]
  rw [hsame, FileSystem.pathError?]
  cases herror : Text.encodingErrorBut? Text.isByte (ofString s).toString with
  | some e =>
    refine iff_of_false (by simp) fun h => ?_
    have hnone := Text.encodingErrorBut?_eq_none.2 fun c hc => (h c hc).2
    rw [herror] at hnone
    cases hnone
  | none =>
    have hhalves := Text.encodingErrorBut?_eq_none.1 herror
    simp only [Allows, forall₂_and]
    rw [and_iff_left hhalves]
    simp [List.forall_mem_ne']

end Path

namespace FileSystem

variable {fs : FileSystem} {path : Path}

theorem isReported_of_walkFrom {shown : String} {place parts : List String} {e : FileError}
    (h : fs.walkFrom shown place parts = .error e) : e.isReported = true := by
  induction parts generalizing place with
  | nil => cases h
  | cons part rest ih =>
    rw [walkFrom] at h
    split at h
    · obtain rfl := Except.error.inj h
      split <;> rfl
    · split at h
      · exact ih h
      · split at h
        · obtain rfl := Except.error.inj h
          rfl
        · exact ih h

theorem not_isReported_of_pathError? {shown : String} {e : FileError}
    (h : pathError? shown = some e) : e.isReported = false := by
  unfold pathError? at h
  split at h
  next =>
    obtain rfl := Option.some.inj h
    rfl
  next =>
    split at h
    next =>
      obtain rfl := Option.some.inj h
      rfl
    next => cases h

theorem read_reported_iff :
    (∀ e, fs.read path = .error e → e.isReported = true) ↔ pathError? path.toString = none := by
  cases hpath : pathError? path.toString with
  | some e =>
    have hread : fs.read path = .error e := by
      simp only [read, walk, hpath]
      rfl
    refine iff_of_false (fun h => ?_) (by simp)
    have hreported := h e hread
    rw [not_isReported_of_pathError? hpath] at hreported
    cases hreported
  | none =>
    refine iff_of_true (fun e h => ?_) rfl
    rw [read, walk, hpath] at h
    rcases Outcome.bind_eq_error.1 h with hwalk | ⟨place, -, hplace⟩
    · dsimp only at hwalk
      split at hwalk
      · obtain rfl := Except.error.inj hwalk
        rfl
      · exact isReported_of_walkFrom hwalk
    · split at hplace
      · cases hplace
      · obtain rfl := Except.error.inj hplace
        split <;> rfl

end FileSystem

namespace Load

def sourceText (files : FileSystem) (fetch : String → Fetched) (source : String) :
    Except LoadError String :=
  if isUrl source then fetchedText source (fetch source) else fileText files source

def sourceDocument (conforms : Value → Bool) (files : FileSystem) (fetch : String → Fetched)
    (source : String) : Except LoadError Value := do
  document conforms source (← sourceText files fetch source)

def sourceSpec (conforms : Value → Bool) (files : FileSystem) (fetch : String → Fetched)
    (source : String) : Except LoadError Spec := do
  (Spec.ofDocument (← sourceDocument conforms files fetch source)).mapError .extraction

end Load

def Value.IsSupported (document : Value) : Prop :=
  document.isMap = true ∧ ∃ version major, document.get? "openapi" = some (.text version) ∧
    Text.readInt (Version.major (Text.strip version)) = some major ∧ 3 ≤ major

namespace Version

theorem isSupported_of_supported {document : Value} {version : String}
    (hmap : document.isMap = true) (h : supported document = .ok version) :
    document.IsSupported := by
  obtain ⟨declaredVersion, hdeclared, h⟩ := Outcome.bind_eq_ok.1 h
  obtain ⟨_, hsupported, -⟩ := Outcome.bind_eq_ok.1 h
  unfold declared at hdeclared
  split at hdeclared
  next => cases hdeclared
  next written hwritten =>
    obtain ⟨v, hv, htext⟩ := Option.bind_eq_some_iff.1 hwritten
    obtain rfl : v = .text written := by
      unfold Value.text? at htext
      split at htext <;> cases htext
      rfl
    split at hdeclared
    next => cases hdeclared
    next =>
      obtain rfl := Except.ok.inj hdeclared
      unfold ensureSupported at hsupported
      split at hsupported
      next => cases hsupported
      next n hn =>
        split at hsupported
        next => cases hsupported
        next hlarge => exact ⟨hmap, written, n, hv, hn, Int.not_lt.1 hlarge⟩

end Version

namespace Load

variable {conforms : Value → Bool} {files : FileSystem} {fetch : String → Fetched}
  {source text : String}

theorem document_eq (conforms : Value → Bool) (source text : String) :
    document conforms source text =
      match Value.ofText text with
      | .error e => .error (documentError source e)
      | .ok v =>
        if v.isMap then
          match Version.supported v with
          | .error e => .error (.version e)
          | .ok _ => if conforms v then .ok v else .error (.nonconforming source)
        else .error (.notAMap (kind v)) := by
  unfold document
  cases Value.ofText text with
  | error e => rfl
  | ok v =>
    change (if (!v.isMap) = true then _ else _) = ite _ _ _
    cases v.isMap with
    | false => rfl
    | true =>
      cases Version.supported v with
      | error e => rfl
      | ok version =>
        change (if conforms v = true then _ else _) = ite _ _ _
        split <;> rfl

theorem isSupported_of_document {v : Value} (h : document conforms source text = .ok v) :
    v.IsSupported := by
  rw [document_eq] at h
  split at h
  next => cases h
  next value hvalue =>
    split at h
    next hmap =>
      split at h
      next => cases h
      next version hversion =>
        split at h
        next =>
          obtain rfl := Except.ok.inj h
          exact Version.isSupported_of_supported hmap hversion
        next => cases h
    next => cases h

theorem document_reported_iff :
    (∀ e, document conforms source text = .error e → e.isReported = true) ↔
      ∀ e, Value.ofText text = .error e → e = .malformed := by
  rw [document_eq]
  cases hvalue : Value.ofText text with
  | error e =>
    cases e <;> simp [documentError, LoadError.isReported]
  | ok v =>
    refine iff_of_true (fun e h => ?_) (by simp)
    dsimp only at h
    split at h
    next =>
      split at h
      next =>
        obtain rfl := Except.error.inj h
        rfl
      next =>
        split at h
        next => cases h
        next =>
          obtain rfl := Except.error.inj h
          rfl
    next =>
      obtain rfl := Except.error.inj h
      rfl

theorem fetchedText_reported {fetched : Fetched} {e : LoadError}
    (h : fetchedText source fetched = .error e) : e.isReported = true := by
  unfold fetchedText at h
  split at h
  next =>
    split at h
    next => cases h
    next =>
      obtain rfl := Except.error.inj h
      rfl
  next =>
    obtain rfl := Except.error.inj h
    rfl

theorem fileText_reported_iff :
    (∀ e, fileText files source = .error e → e.isReported = true) ↔
      (∀ c ∈ source.toList, Path.Allows c) ∧
        ∀ file, files.read (.ofString source) = .ok file → ∃ text, file.text = .ok text := by
  have hread : (∀ e, files.read (.ofString source) = .error e → e.isReported = true) ↔
      ∀ c ∈ source.toList, Path.Allows c :=
    FileSystem.read_reported_iff.trans Path.pathError?_eq_none
  rw [← hread, fileText]
  cases hread : files.read (.ofString source) with
  | error e => simp [Except.mapError, bind, Except.bind, LoadError.isReported]
  | ok file =>
    cases htext : file.text with
    | error e =>
      simp [htext, Except.mapError, bind, Except.bind, LoadError.isReported]
    | ok text =>
      simp [htext, Except.mapError, bind, Except.bind, pure, Except.pure]

/-- The location of a file is a path, a file that is there has bytes that are a text, and the
parser gives the text a value or refuses it as malformed. -/
structure Legible (files : FileSystem) (fetch : String → Fetched) (source : String) : Prop where
  isPath : isUrl source = false → ∀ c ∈ source.toList, Path.Allows c
  isText : isUrl source = false →
    ∀ file, files.read (.ofString source) = .ok file → ∃ text, file.text = .ok text
  parses : ∀ text, sourceText files fetch source = .ok text →
    ∀ e, Value.ofText text = .error e → e = .malformed

theorem sourceText_reported_iff :
    (∀ e, sourceText files fetch source = .error e → e.isReported = true) ↔
      (isUrl source = false → ∀ c ∈ source.toList, Path.Allows c) ∧
        (isUrl source = false →
          ∀ file, files.read (.ofString source) = .ok file → ∃ text, file.text = .ok text) := by
  rw [sourceText]
  cases isUrl source with
  | true => simpa using fun e => fetchedText_reported
  | false => simpa using fileText_reported_iff

theorem sourceDocument_reported_iff :
    (∀ e, sourceDocument conforms files fetch source = .error e → e.isReported = true) ↔
      Legible files fetch source := by
  have hsplit : (∀ e, sourceDocument conforms files fetch source = .error e → e.isReported = true) ↔
      (∀ e, sourceText files fetch source = .error e → e.isReported = true) ∧
        ∀ text, sourceText files fetch source = .ok text →
          ∀ e, document conforms source text = .error e → e.isReported = true := by
    simp only [sourceDocument, Outcome.bind_eq_error]
    constructor
    · exact fun h => ⟨fun e he => h e (.inl he), fun text ht e he => h e (.inr ⟨text, ht, he⟩)⟩
    · rintro ⟨htext, hdocument⟩ e (he | ⟨text, ht, he⟩)
      · exact htext e he
      · exact hdocument text ht e he
  rw [hsplit, sourceText_reported_iff]
  simp only [document_reported_iff]
  exact ⟨fun ⟨⟨hpath, htext⟩, hparses⟩ => ⟨hpath, htext, hparses⟩,
    fun h => ⟨⟨h.isPath, h.isText⟩, h.parses⟩⟩

theorem sourceSpec_eq (conforms : Value → Bool) (files : FileSystem) (fetch : String → Fetched)
    (source : String) :
    sourceSpec conforms files fetch source =
      if isUrl source then Spec.ofFetched conforms source (fetch source)
      else Spec.ofFile conforms files source := by
  rw [sourceSpec, sourceDocument, sourceText]
  split
  · rw [Spec.ofFetched]
    cases fetchedText source (fetch source) <;> rfl
  · rw [Spec.ofFile]
    cases fileText files source <;> rfl

end Load

namespace Session

theorem note_run (args : Arguments) (notice : Notice) (s : Session) :
    ∃ t, (note args notice).run s = (.ok (), t) ∧ t.files = s.files ∧ t.fetch = s.fetch := by
  rw [note]
  split
  · exact ⟨{ s with log := s.log ++ [notice.text] }, rfl, rfl, rfl⟩
  · exact ⟨s, rfl, rfl, rfl⟩

theorem load_run (platform : Platform) (args : Arguments) (s : Session) :
    ∃ t, (load platform args).run s =
        ((Load.sourceSpec platform.conforms s.files s.fetch args.input).mapError .load, t) ∧
      t.files = s.files := by
  have hattempt : ∀ (y : Except LoadError Spec) (t : Session),
      (attempt .load y : Run Spec).run t = (y.mapError .load, t) := by
    intro y t
    cases y <;> rfl
  rw [Load.sourceSpec_eq, load]
  split
  · obtain ⟨t, hnote, hfiles, hfetch⟩ := note_run args (.fetching args.input) s
    refine ⟨t, ?_, hfiles⟩
    rw [run_bind, hnote]
    dsimp only
    rw [run_get_bind, hattempt, hfetch]
  · obtain ⟨t, hnote, hfiles, -⟩ := note_run args (.reading (.ofString args.input)) s
    refine ⟨t, ?_, hfiles⟩
    rw [run_bind, hnote]
    dsimp only
    rw [run_get_bind, hattempt, hfiles]

theorem generate_of_sourceDocument_error {platform : Platform} {args : Arguments} {s : Session}
    {e : LoadError}
    (h : Load.sourceDocument platform.conforms s.files s.fetch args.input = .error e) :
    ∃ t, (generate platform args).run s = (.error (.load e), t) ∧ t.files = s.files := by
  obtain ⟨t, hload, hfiles⟩ := load_run platform args s
  refine ⟨t, ?_, hfiles⟩
  rw [generate, run_bind, hload, Load.sourceSpec, h]
  rfl

end Session

/-- What is loaded is supported, and every failure to load is told exactly if the source is legible.
What is told ends a run with status 2 before anything is written, and does not end a watch if its
message has bytes. -/
theorem Load.sourceDocument_exact (platform : Platform) (files : FileSystem)
    (fetch : String → Fetched) (source : String) :
    (∀ document, sourceDocument platform.conforms files fetch source = .ok document →
        document.IsSupported) ∧
      ((∀ e, sourceDocument platform.conforms files fetch source = .error e →
          e.isReported = true) ↔ Legible files fetch source) ∧
      ∀ e, sourceDocument platform.conforms files fetch source = .error e → e.isReported = true →
        ∀ (words : List String) (args : Arguments) (s : Session),
          Arguments.parse words = .ok args → args.input = source → s.files = files →
          s.fetch = fetch →
          (∀ steps, ∃ t, (Session.run platform words steps).run s = (.ok 2, t) ∧
            t.files = files) ∧
            ((∃ t, (Session.regenerate platform args).run s = (.ok (), t) ∧ t.files = files) ↔
              Text.HasBytes (Session.complaint (.load e))) := by
  refine ⟨fun document h => ?_, sourceDocument_reported_iff, fun e he hreported => ?_⟩
  · obtain ⟨text, -, hdocument⟩ := Outcome.bind_eq_ok.1 h
    exact isSupported_of_document hdocument
  · rintro words args s hparse rfl rfl rfl
    obtain ⟨t, hgenerate, hfiles⟩ := Session.generate_of_sourceDocument_error he
    have hfailure : Failure.isReported (.load e) = true := hreported
    constructor
    · intro steps
      obtain ⟨t', hrun, hfiles'⟩ := Session.run_of_reported hgenerate hfailure hparse steps
      exact ⟨t', hrun, hfiles'.elim id (·.trans hfiles)⟩
    · rw [← hfiles]
      exact Session.regenerate_of_reported hgenerate hfailure

/-! A file that is missing and one that is no text. -/

def loadWords : List String := ["-i", "s.yaml", "-o", "o.py"]

def loadArguments : Arguments where
  input := "s.yaml"
  output := "o.py"
  options := {}
  isClassNamed := true
  verify := false
  watch := false
  skipFormat := false
  verbose := false

def loadSession (files : FileSystem) : Session where
  files
  replies := []
  fetch := fun _ => .failure ""

theorem Load.missingFile_told :
    Legible .empty (loadSession .empty).fetch "s.yaml" ∧
      (∃ t, (Session.run .standard loadWords []).run (loadSession .empty) = (.ok 2, t) ∧
        t.files = .empty) ∧
      ∃ t, (Session.regenerate .standard loadArguments).run (loadSession .empty) = (.ok (), t) ∧
        t.files = .empty := by
  obtain ⟨-, hiff, htold⟩ :=
    sourceDocument_exact .standard .empty (loadSession .empty).fetch loadArguments.input
  have hmissing : sourceDocument Platform.standard.conforms .empty (loadSession .empty).fetch
      "s.yaml" = .error (.file (.ofString "s.yaml") (.notFound "s.yaml")) := rfl
  obtain ⟨hrun, hregenerate⟩ := htold _ hmissing rfl loadWords loadArguments (loadSession .empty)
    rfl rfl rfl rfl
  have hbytes : Text.HasBytes (Session.complaint (.load (.file (.ofString "s.yaml")
      (.notFound "s.yaml")))) := Text.hasBytes_of_ascii (by decide +kernel)
  refine ⟨hiff.1 fun e he => ?_, hrun [], hregenerate.2 hbytes⟩
  obtain rfl := Except.error.inj (hmissing.symm.trans he)
  rfl

theorem Load.undecodableFile_untold :
    let files := FileSystem.empty.store ["s.yaml"] (Text.decode [0xff])
    let e : LoadError := .decoding ⟨.start, 0, 1, 0xff⟩
    sourceDocument Platform.standard.conforms files (loadSession files).fetch "s.yaml" = .error e ∧
      e.isReported = false ∧
      ∃ t, (Session.run .standard loadWords []).run (loadSession files) = (.error (.load e), t) :=
  ⟨rfl, rfl, _, rfl⟩

end TypedClient
