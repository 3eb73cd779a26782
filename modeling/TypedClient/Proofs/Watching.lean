import TypedClient.Proofs.Generation

/-!
A run that watches its input. After each look the output file holds the module of the last text of
the input that could be loaded, whatever was edited, deleted or restored in between.
-/

namespace TypedClient

/-! Texts of the input. -/

def Load.specOfText (conforms : Value → Bool) (source text : String) : Except LoadError Spec :=
  Load.spec conforms source (String.ofList (Text.unifyLineEnds text.toList))

def Load.isTold : Except LoadError Spec → Bool
  | .ok _ => true
  | .error e => e.isReported

namespace Spec

variable {conforms : Value → Bool} {fs : FileSystem} {source text : String}

theorem ofFile_eq {place : List String} {time : Nat}
    (hwalk : fs.walk (.ofString source) = .ok place)
    (hfile : fs.file? place = some ⟨.ok text, time⟩) :
    ofFile conforms fs source = Load.specOfText conforms source text := by
  have hread : fs.read (.ofString source) = .ok ⟨.ok text, time⟩ :=
    FileSystem.read_eq_ok.2 ⟨place, hwalk, hfile⟩
  have htext : Load.fileText fs source = .ok (String.ofList (Text.unifyLineEnds text.toList)) := by
    rw [Load.fileText, hread]
    rfl
  simp only [ofFile, htext, bind, Except.bind, Load.specOfText]

theorem exists_file_of_ofFile {spec : Spec} (h : ofFile conforms fs source = .ok spec) :
    ∃ file, fs.walk (.ofString source) = .ok (Path.ofString source).place ∧
      fs.file? (Path.ofString source).place = some file := by
  obtain ⟨_, htext, -⟩ := Outcome.bind_eq_ok.1 h
  obtain ⟨file, hread, -⟩ := Outcome.bind_eq_ok.1 htext
  obtain ⟨place, hwalk, hfile⟩ := FileSystem.read_eq_ok.1 (Outcome.mapError_eq_ok.1 hread)
  obtain rfl := FileSystem.place_of_walk hwalk
  exact ⟨file, hwalk, hfile⟩

end Spec

namespace Session

variable {platform : Platform} {args : Arguments} {spec first : Spec} {fs fs' base : FileSystem}
  {edits : List Edit} {last : Nat}

def inputPlace (args : Arguments) : List String := (Path.ofString args.input).place

def seen? (edits : List Edit) : Option String := edits.getLast?.bind Edit.text

section

variable (platform : Platform) (args : Arguments)

def newVersion? (edits : List Edit) : Option Spec :=
  (seen? edits).bind fun text =>
    (Load.specOfText platform.conforms args.input text).toOption

def complaint? (edits : List Edit) : Option String :=
  (seen? edits).bind fun text =>
    match Load.specOfText platform.conforms args.input text with
    | .ok _ => none
    | .error e => some (complaint (.load e))

def versions (fs : FileSystem) (steps : List (List Edit)) : List Spec :=
  (Spec.ofFile platform.conforms fs args.input).toOption.toList
    ++ steps.filterMap (newVersion? platform args)

def Shows (fs : FileSystem) (spec : Spec) : Prop :=
  ∃ text time, printed platform args spec = .ok text ∧
    fs.file? (outputPlace args) = some ⟨.ok text, time⟩

end

/-! Edits. -/

def edited (fs : FileSystem) (e : Edit) : FileSystem :=
  match e.text with
  | some text => fs.store e.path.place (.ok text)
  | none => fs.remove e.path.place

theorem file?_edited (fs : FileSystem) (e : Edit) :
    (edited fs e).file? e.path.place = e.text.map fun text => ⟨.ok text, fs.clock⟩ := by
  rw [edited]
  cases e.text with
  | none => simp [FileSystem.file?_remove]
  | some text => simp

theorem edit_yields (e : Edit) (fs : FileSystem) :
    Yields (edit e) fs (.ok ()) (edited fs e) := by
  rw [edit, edited]
  refine .get_bind fun s hs => ?_
  subst hs
  cases e.text with
  | none => exact setFiles_yields _ _
  | some text => exact setFiles_yields _ _

theorem edits_yields (edits : List Edit) (fs : FileSystem) :
    Yields (edits.forM edit) fs (.ok ()) (edits.foldl edited fs) := by
  induction edits generalizing fs with
  | nil => exact .pure () fs
  | cons e edits ih => exact (edit_yields e fs).bind (ih (edited fs e))

structure Beside (place : List String) (fs fs' : FileSystem) : Prop where
  directories : fs'.directories = fs.directories
  files : ∀ other, other ≠ place → fs'.file? other = fs.file? other
  timely : fs.Timely → fs'.Timely
  clock : fs.clock ≤ fs'.clock

theorem beside_edited (e : Edit) (fs : FileSystem) : Beside e.path.place fs (edited fs e) := by
  rw [edited]
  cases e.text with
  | none =>
    exact ⟨rfl, fun other h => by rw [FileSystem.file?_remove, if_neg h],
      fun h => h.remove _, Nat.le_refl _⟩
  | some text =>
    exact ⟨rfl, fun other h => FileSystem.file?_store_of_ne h _, fun h => h.store _ _,
      Nat.le_succ _⟩

theorem beside_edits {place : List String} (h : ∀ e ∈ edits, e.path.place = place)
    (fs : FileSystem) : Beside place fs (edits.foldl edited fs) := by
  induction edits generalizing fs with
  | nil => exact ⟨rfl, fun _ _ => rfl, id, Nat.le_refl _⟩
  | cons e edits ih =>
    rw [List.forall_mem_cons] at h
    have hfirst := beside_edited e fs
    have hrest := ih h.2 (edited fs e)
    rw [h.1] at hfirst
    exact
      { directories := hrest.directories.trans hfirst.directories
        files := fun other ho => (hrest.files other ho).trans (hfirst.files other ho)
        timely := fun ht => hrest.timely (hfirst.timely ht)
        clock := Nat.le_trans hfirst.clock hrest.clock }

/-! A look. -/

structure WatchesOnly (args : Arguments) : Prop where
  watch : args.watch = true
  skipFormat : args.skipFormat = true
  verify : args.verify = false
  isLocal : Load.isUrl args.input = false
  differs : outputPlace args ≠ inputPlace args

structure Reachable (args : Arguments) (fs : FileSystem) : Prop where
  input : fs.walk (.ofString args.input) = .ok (inputPlace args)
  hasInput : inputPlace args ∈ fs.places
  opens : Opens args fs fs

/-- Where a watched run stands between two looks: since the first generation only the input and the
text of the output changed, the output is that of a document, and the input, if it is there, has the
time that was seen last. -/
structure Current (platform : Platform) (args : Arguments) (base : FileSystem) (spec : Spec)
    (last : Nat) (fs : FileSystem) : Prop where
  directories : fs.directories = base.directories
  places : ∀ place, place ≠ inputPlace args → (place ∈ fs.places ↔ place ∈ base.places)
  timely : fs.Timely
  shows : Shows platform args fs spec
  seen : ∀ file, fs.file? (inputPlace args) = some file → file.modified = last
  past : last < fs.clock

namespace Current

theorem beside {last' : Nat} (h : Current platform args base spec last fs)
    (hargs : WatchesOnly args) (hbeside : Beside (inputPlace args) fs fs')
    (hseen : ∀ file, fs'.file? (inputPlace args) = some file → file.modified = last')
    (hpast : last' < fs'.clock) : Current platform args base spec last' fs' where
  directories := hbeside.directories.trans h.directories
  places := fun place hplace => by
    rw [← h.places place hplace, ← FileSystem.isSome_file?_iff, ← FileSystem.isSome_file?_iff,
      hbeside.files place hplace]
  timely := hbeside.timely h.timely
  shows := by
    obtain ⟨text, time, hprint, hfile⟩ := h.shows
    exact ⟨text, time, hprint, (hbeside.files _ hargs.differs).trans hfile⟩
  seen := hseen
  past := hpast

theorem store {new : Spec} {text : String} (h : Current platform args base spec last fs)
    (hargs : WatchesOnly args) (hprint : printed platform args new = .ok text) :
    Current platform args base new last (fs.store (outputPlace args) (.ok text)) where
  directories := h.directories
  places := fun place hplace => by
    rw [FileSystem.mem_places_store, ← h.places place hplace, or_iff_right_iff_imp]
    rintro rfl
    obtain ⟨_, _, -, hfile⟩ := h.shows
    exact FileSystem.isSome_file?_iff.1 (by rw [hfile]; rfl)
  timely := h.timely.store _ _
  shows := ⟨text, fs.clock, hprint, FileSystem.file?_store_self _ _ _⟩
  seen := fun file hfile =>
    h.seen file ((FileSystem.file?_store_of_ne hargs.differs.symm _).symm.trans hfile)
  past := Nat.lt_succ_of_lt h.past

theorem within (h : Current platform args base spec last fs) (hbase : inputPlace args ∈ base.places)
    (hfs : inputPlace args ∈ fs.places) : base.Within fs ∧ fs.Within base := by
  have hplaces : ∀ place, place ∈ fs.places ↔ place ∈ base.places := by
    intro place
    by_cases hplace : place = inputPlace args
    · simp [hplace, hbase, hfs]
    · exact h.places place hplace
  exact ⟨⟨h.directories ▸ List.Subset.refl _, fun place => (hplaces place).2⟩,
    ⟨h.directories ▸ List.Subset.refl _, fun place => (hplaces place).1⟩⟩

end Current

theorem modified?_yields (args : Arguments) (fs : FileSystem) :
    Yields (modified? args) fs (.ok (fs.modified? (.ofString args.input))) fs :=
  .get_bind fun _ hs => hs ▸ .pure _ _

theorem regenerate_of_ok (h : Yields (generate platform args) fs (.ok 0) fs') :
    Yields (regenerate platform args) fs (.ok ()) fs' :=
  .tryCatch_ok h.discard_ok

theorem regenerate_of_load_error {e : LoadError} {r : Except Failure Unit}
    (h : Yields (generate platform args) fs (.error (.load e)) fs) (he : e.isReported = true)
    (hsay : Yields (say (complaint (.load e))) fs r fs) :
    Yields (regenerate platform args) fs r fs := by
  refine .tryCatch_error h.discard_error ?_
  rwa [if_pos (show Failure.isReported (.load e) = true from he)]

theorem regenerate_of_unreported {failure : Failure}
    (h : Yields (generate platform args) fs (.error failure) fs')
    (hfailure : failure.isReported = false) :
    Yields (regenerate platform args) fs (.error failure) fs' := by
  refine .tryCatch_error h.discard_error ?_
  rw [if_neg (by simp [hfailure])]
  exact .throw failure fs'

theorem poll_of_same {time : Int}
    (h : (edits.foldl edited fs).modified? (.ofString args.input) = none ∨
      (edits.foldl edited fs).modified? (.ofString args.input) = some time) :
    Yields (poll platform args (some time) edits) fs (.ok (some time)) (edits.foldl edited fs) := by
  have hlook : Watch.look (some time)
      ((edits.foldl edited fs).modified? (.ofString args.input)) = (some time, false) := by
    rcases h with h | h <;> simp [h, Watch.look]
  rw [poll]
  refine (edits_yields edits fs).bind ((modified?_yields args _).bind ?_)
  rw [hlook]
  exact .pure _ _

theorem poll_of_changed {time time' : Int} {r : Except Failure Unit} (hne : time ≠ time')
    (h : (edits.foldl edited fs).modified? (.ofString args.input) = some time')
    (hregenerate : Yields (regenerate platform args) (edits.foldl edited fs) r fs') :
    Yields (poll platform args (some time) edits) fs (r.map fun _ => some time') fs' := by
  have hlook : Watch.look (some time)
      ((edits.foldl edited fs).modified? (.ofString args.input)) = (some time', true) := by
    simp [h, Watch.look, hne]
  rw [poll]
  refine (edits_yields edits fs).bind ((modified?_yields args _).bind ?_)
  rw [hlook]
  refine (note_yields args _ _).bind ?_
  cases r with
  | error e => exact hregenerate.bind_error
  | ok _ => exact hregenerate.bind (.pure _ _)

theorem Current.unseen (h : Current platform args base spec last fs) (hargs : WatchesOnly args)
    (hplaces : ∀ e ∈ edits, e.path.place = inputPlace args) (hseen : seen? edits = none) :
    Current platform args base spec last (edits.foldl edited fs) ∧
      ((edits.foldl edited fs).modified? (.ofString args.input) = none ∨
        (edits.foldl edited fs).modified? (.ofString args.input) = some (last : Int)) := by
  have hcurrent : Current platform args base spec last (edits.foldl edited fs) := by
    have hbeside := beside_edits hplaces fs
    refine h.beside hargs hbeside ?_ (Nat.lt_of_lt_of_le h.past hbeside.clock)
    rcases List.eq_nil_or_concat' edits with rfl | ⟨before, e, rfl⟩
    · exact h.seen
    · have hfile := file?_edited (before.foldl edited fs) e
      rw [seen?, List.getLast?_concat, Option.bind_some] at hseen
      rw [← List.foldl_concat edited fs e before, hplaces e (by simp), hseen] at hfile
      intro file hfile'
      cases hfile'.symm.trans hfile
  refine ⟨hcurrent, ?_⟩
  cases hmodified : (edits.foldl edited fs).modified? (.ofString args.input) with
  | none => exact .inl rfl
  | some time =>
    obtain ⟨file, hfile, rfl⟩ := FileSystem.exists_file_of_modified? hmodified
    exact .inr (by rw [hcurrent.seen file hfile])

theorem Current.seeing {text : String} (h : Current platform args base spec last fs)
    (hargs : WatchesOnly args) (hplaces : ∀ e ∈ edits, e.path.place = inputPlace args)
    (hseen : seen? edits = some text) :
    ∃ time, last < time ∧ Current platform args base spec time (edits.foldl edited fs) ∧
      (edits.foldl edited fs).file? (inputPlace args) = some ⟨.ok text, time⟩ := by
  rcases List.eq_nil_or_concat' edits with rfl | ⟨before, e, rfl⟩
  · cases hseen
  · have hbefore := beside_edits
      (fun e' he' => hplaces e' (List.mem_append_left [e] he')) fs
    have hbeside := beside_edits hplaces fs
    have hfile := file?_edited (before.foldl edited fs) e
    rw [seen?, List.getLast?_concat, Option.bind_some] at hseen
    rw [← List.foldl_concat edited fs e before, hplaces e (by simp), hseen] at hfile
    refine ⟨_, Nat.lt_of_lt_of_le h.past hbefore.clock, ?_, hfile⟩
    exact h.beside hargs hbeside (fun file hfile' => by cases hfile.symm.trans hfile'; rfl)
      (hbeside.timely h.timely _ _ hfile)

theorem Current.input {text : String} {time : Nat} (h : Current platform args base spec last fs)
    (hbase : Reachable args base)
    (hfile : fs.file? (inputPlace args) = some ⟨.ok text, time⟩) :
    Opens args fs fs ∧ fs.modified? (.ofString args.input) = some (time : Int) ∧
      Spec.ofFile platform.conforms fs args.input =
        Load.specOfText platform.conforms args.input text := by
  obtain ⟨hwithin, hwithin'⟩ :=
    h.within hbase.hasInput (FileSystem.isSome_file?_iff.1 (by rw [hfile]; rfl))
  have hwalk := hwithin.walk hbase.input
  exact ⟨hbase.opens.within hwithin hwithin',
    FileSystem.modified?_eq_some.2 ⟨_, _, hwalk, hfile, rfl⟩, Spec.ofFile_eq hwalk hfile⟩

/-! Any number of looks. -/

structure Seeable (platform : Platform) (args : Arguments) (edits : List Edit) : Prop where
  places : ∀ e ∈ edits, e.path.place = inputPlace args
  isTold : ∀ text ∈ seen? edits,
    Load.isTold (Load.specOfText platform.conforms args.input text) = true

theorem reported_of_isTold {e : LoadError} {loaded : Except LoadError Spec}
    (h : Load.isTold loaded = true) (he : loaded = .error e) : e.isReported = true := by
  subst he
  exact h

/-- What a look meets does not end the run: a text that loads can be written, and what is said of any
other has bytes. -/
structure Passable (platform : Platform) (args : Arguments) (edits : List Edit) : Prop where
  loaded : ∀ new ∈ newVersion? platform args edits, Writable platform args new
  unloaded : ∀ line ∈ complaint? platform args edits, Text.HasBytes line

theorem passable_of_unseen (h : seen? edits = none) : Passable platform args edits :=
  ⟨by simp [newVersion?, h], by simp [complaint?, h]⟩

theorem complaint?_of_seen {text : String} {e : LoadError} (h : seen? edits = some text)
    (he : Load.specOfText platform.conforms args.input text = .error e) :
    complaint? platform args edits = some (complaint (.load e)) := by
  simp [complaint?, h, he]

theorem newVersion?_of_seen {text : String} (h : seen? edits = some text) :
    newVersion? platform args edits =
      (Load.specOfText platform.conforms args.input text).toOption := by
  rw [newVersion?, h]
  rfl

section

variable (hargs : WatchesOnly args) (hbase : Reachable args base)
include hargs hbase

theorem Current.failing {text : String} {failure : Failure}
    (h : Current platform args base spec last fs)
    (hplaces : ∀ e ∈ edits, e.path.place = inputPlace args) (hseen : seen? edits = some text)
    (hregenerate : Yields (regenerate platform args) (edits.foldl edited fs) (.error failure) fs') :
    Yields (poll platform args (some last) edits) fs (.error failure) fs' := by
  obtain ⟨time, htime, hcurrent, hfile⟩ := h.seeing hargs hplaces hseen
  obtain ⟨-, hmodified, -⟩ := hcurrent.input hbase hfile
  exact poll_of_changed (by omega) hmodified hregenerate

variable (hnamed : args.isClassNamed = true)
include hnamed

theorem Current.regenerated {text : String} {time : Nat}
    (h : Current platform args base spec last fs)
    (hfile : fs.file? (inputPlace args) = some ⟨.ok text, time⟩)
    (hseen : seen? edits = some text) (hedits : Seeable platform args edits)
    (hpassable : Passable platform args edits) :
    ∃ fs', Yields (regenerate platform args) fs (.ok ()) fs' ∧
      Current platform args base ((newVersion? platform args edits).getD spec) last fs' := by
  obtain ⟨hopens, -, hload⟩ := h.input hbase hfile
  have hversion : newVersion? platform args edits = _ := newVersion?_of_seen hseen
  cases hspec : Load.specOfText platform.conforms args.input text with
  | error e =>
    have hgenerate := generate_of_load_error hargs.isLocal (hload.trans hspec)
    have hsay := hpassable.unloaded _ (complaint?_of_seen hseen hspec)
    rw [hversion, hspec]
    exact ⟨fs, regenerate_of_load_error hgenerate
      (reported_of_isTold (hedits.isTold text hseen) hspec) (say_yields hsay fs), h⟩
  | ok new =>
    rw [hspec] at hversion
    obtain ⟨⟨text, hprint, hencodes⟩, hsummary⟩ := hpassable.loaded new hversion
    have hgenerate := generate_printable hargs.isLocal (hload.trans hspec) hnamed
      hargs.skipFormat hargs.verify hopens hprint hencodes (tell_yields hsummary _)
    rw [hversion]
    exact ⟨_, regenerate_of_ok hgenerate, h.store hargs hprint⟩

theorem Current.polled (h : Current platform args base spec last fs)
    (hedits : Seeable platform args edits) (hpassable : Passable platform args edits) :
    ∃ (last' : Nat) (fs' : FileSystem),
      Yields (poll platform args (some last) edits) fs (.ok (some last')) fs' ∧
        Current platform args base ((newVersion? platform args edits).getD spec) last' fs' := by
  cases hseen : seen? edits with
  | none =>
    obtain ⟨hcurrent, hmodified⟩ := h.unseen hargs hedits.places hseen
    rw [newVersion?, hseen]
    exact ⟨last, _, poll_of_same hmodified, hcurrent⟩
  | some text =>
    obtain ⟨time, htime, hcurrent, hfile⟩ := h.seeing hargs hedits.places hseen
    obtain ⟨-, hmodified, -⟩ := hcurrent.input hbase hfile
    obtain ⟨fs', hregenerate, hafter⟩ :=
      hcurrent.regenerated hargs hbase hnamed hfile hseen hedits hpassable
    exact ⟨time, fs', poll_of_changed (by omega) hmodified hregenerate, hafter⟩

theorem Current.stopped (h : Current platform args base spec last fs)
    (hedits : Seeable platform args edits) (hbad : ¬Passable platform args edits) :
    ∃ failure fs', Yields (poll platform args (some last) edits) fs (.error failure) fs' := by
  cases hseen : seen? edits with
  | none => exact absurd (passable_of_unseen hseen) hbad
  | some text =>
    obtain ⟨time, -, hcurrent, hfile⟩ := h.seeing hargs hedits.places hseen
    obtain ⟨hopens, -, hload⟩ := hcurrent.input hbase hfile
    have hversion : newVersion? platform args edits = _ := newVersion?_of_seen hseen
    cases hspec : Load.specOfText platform.conforms args.input text with
    | error e =>
      have hcomplaint := complaint?_of_seen hseen hspec
      have hgenerate := generate_of_load_error hargs.isLocal (hload.trans hspec)
      rw [hspec] at hversion
      cases hencodes : Text.encodingError? (complaint (.load e)) with
      | none =>
        refine absurd ⟨fun new hnew => ?_, fun line hline => ?_⟩ hbad
        · cases hversion.symm.trans hnew
        · obtain rfl := Option.some.inj (hcomplaint.symm.trans hline)
          exact hencodes
      | some error =>
        exact ⟨_, _, h.failing hargs hbase hedits.places hseen (regenerate_of_load_error hgenerate
          (reported_of_isTold (hedits.isTold text hseen) hspec) (say_unencodable hencodes _))⟩
    | ok new =>
      rw [hspec] at hversion
      have hunwritable : ¬Writable platform args new := by
        refine fun hwritable => hbad ⟨fun other hother => ?_, fun line hline => ?_⟩
        · obtain rfl := Option.some.inj (hversion.symm.trans hother)
          exact hwritable
        · simp [complaint?, hseen, hspec] at hline
      obtain ⟨failure, fs', hfailure, hgenerate⟩ := generate_unwritable hargs.isLocal
        (hload.trans hspec) hnamed hargs.skipFormat hargs.verify hopens hunwritable
      exact ⟨failure, fs', h.failing hargs hbase hedits.places hseen
        (regenerate_of_unreported hgenerate hfailure)⟩

theorem Current.polledAll {steps : List (List Edit)} (h : Current platform args base spec last fs)
    (hsteps : ∀ edits ∈ steps, Seeable platform args edits)
    (hpassable : ∀ edits ∈ steps, Passable platform args edits) :
    ∃ (last' : Nat) (fs' : FileSystem),
      Yields (polls platform args (some last) steps) fs (.ok ()) fs' ∧
        Current platform args base
          ((steps.filterMap (newVersion? platform args)).getLast?.getD spec) last' fs' := by
  induction steps generalizing spec last fs with
  | nil => exact ⟨last, fs, .pure () fs, h⟩
  | cons edits rest ih =>
    rw [List.forall_mem_cons] at hsteps hpassable
    obtain ⟨seen, between, hpoll, hbetween⟩ :=
      h.polled hargs hbase hnamed hsteps.1 hpassable.1
    obtain ⟨last', fs', hpolls, hafter⟩ := ih hbetween hsteps.2 hpassable.2
    refine ⟨last', fs', hpoll.bind hpolls, ?_⟩
    rw [List.filterMap_cons]
    cases hnew : newVersion? platform args edits with
    | none => rw [hnew] at hafter; exact hafter
    | some new => rw [hnew] at hafter; simpa [List.getLast?_cons] using hafter

theorem Current.stoppedAll {steps : List (List Edit)}
    (h : Current platform args base spec last fs)
    (hsteps : ∀ edits ∈ steps, Seeable platform args edits)
    (hbad : ¬∀ edits ∈ steps, Passable platform args edits) :
    ∃ failure fs', Yields (polls platform args (some last) steps) fs (.error failure) fs' := by
  -- up to the first look that does not pass the run goes on as an undisturbed one
  induction steps generalizing spec last fs with
  | nil => exact absurd (by simp) hbad
  | cons edits rest ih =>
    rw [List.forall_mem_cons] at hsteps
    by_cases hfirst : Passable platform args edits
    · obtain ⟨seen, between, hpoll, hbetween⟩ := h.polled hargs hbase hnamed hsteps.1 hfirst
      obtain ⟨failure, fs', hpolls⟩ := ih hbetween hsteps.2 fun hrest =>
        hbad (List.forall_mem_cons.2 ⟨hfirst, hrest⟩)
      exact ⟨failure, fs', hpoll.bind hpolls⟩
    · obtain ⟨failure, fs', hpoll⟩ := h.stopped hargs hbase hnamed hsteps.1 hfirst
      exact ⟨failure, fs', hpoll.bind_error⟩

end

/-! From the command line on. -/

theorem begin_eq {words : List String} (hparse : Arguments.parse words = .ok args)
    (hargs : WatchesOnly args) :
    begin platform words = tryCatch (start platform args) fun failure =>
      if failure.isReported then refuse failure.message else throw failure := by
  rw [begin, hparse]
  simp [hargs.isLocal]

theorem refuse_yields (message : String) (fs : FileSystem) :
    Yields (refuse message) fs (.ok (.finished 2)) fs :=
  fun _ hs => ⟨_, rfl, hs⟩

theorem start_yields {status : Nat} (hargs : WatchesOnly args)
    (h : Yields (generate platform args) fs (.ok status) fs')
    (hannounced : Text.HasBytes (announcement args)) :
    Yields (start platform args) fs
      (.ok (.watching args status (fs'.modified? (.ofString args.input)))) fs' := by
  rw [start, hargs.watch]
  refine h.bind ((say_yields hannounced fs').bind ((modified?_yields args fs').bind ?_))
  exact .pure _ fs'

theorem start_unannounced {status : Nat} {e : EncodingError} (hargs : WatchesOnly args)
    (h : Yields (generate platform args) fs (.ok status) fs')
    (hannounced : Text.encodingError? (announcement args) = some e) :
    Yields (start platform args) fs (.error (.output e)) fs' := by
  rw [start, hargs.watch]
  exact h.bind (say_unencodable hannounced fs').bind_error

theorem run_of_load_error {words : List String} {e : LoadError}
    (hparse : Arguments.parse words = .ok args) (hargs : WatchesOnly args)
    (h : Spec.ofFile platform.conforms fs args.input = .error e) (he : e.isReported = true)
    (steps : List (List Edit)) : Yields (run platform words steps) fs (.ok 2) fs := by
  have hbegin : Yields (begin platform words) fs (.ok (.finished 2)) fs := by
    rw [begin_eq hparse hargs]
    refine .tryCatch_error (generate_of_load_error hargs.isLocal h).bind_error ?_
    rw [if_pos (show Failure.isReported (.load e) = true from he)]
    exact refuse_yields _ fs
  exact hbegin.bind (.pure 2 fs)

theorem run_of_failure {words : List String} {failure : Failure}
    (hparse : Arguments.parse words = .ok args) (hargs : WatchesOnly args)
    (hstart : Yields (start platform args) fs (.error failure) fs')
    (hfailure : failure.isReported = false) (steps : List (List Edit)) :
    Yields (run platform words steps) fs (.error failure) fs' := by
  have hbegin : Yields (begin platform words) fs (.error failure) fs' := by
    rw [begin_eq hparse hargs]
    refine .tryCatch_error hstart ?_
    rw [if_neg (by simp [hfailure])]
    exact .throw failure fs'
  exact hbegin.bind_error

theorem exists_current (hargs : WatchesOnly args) (hnamed : args.isClassNamed = true)
    (htimely : fs.Timely) (hopens : Opens args fs fs')
    (hfirst : Spec.ofFile platform.conforms fs args.input = .ok first)
    (hwritable : Writable platform args first) :
    ∃ (base : FileSystem) (last : Nat),
      Reachable args base ∧ Current platform args base first last base ∧
        Yields (generate platform args) fs (.ok 0) base ∧
        base.modified? (.ofString args.input) = some (last : Int) := by
  obtain ⟨⟨text, hprint, hencodes⟩, hsummary⟩ := hwritable
  obtain ⟨file, hinput, hfile⟩ := Spec.exists_file_of_ofFile hfirst
  have hprepared := hopens.ready.prepared
  have hstored := FileSystem.Within.store fs' (outputPlace args) (.ok text)
  have hwalk := (hprepared.within.trans hstored).walk hinput
  have hfile' : (fs'.store (outputPlace args) (.ok text)).file? (inputPlace args) = some file := by
    rw [FileSystem.file?_store_of_ne hargs.differs.symm, hprepared.file?]
    exact hfile
  have htimely' := (hprepared.timely htimely).store (outputPlace args) (.ok text)
  refine ⟨fs'.store (outputPlace args) (.ok text), file.modified, ?_, ?_, ?_, ?_⟩
  · exact ⟨hwalk, FileSystem.isSome_file?_iff.1 (by rw [hfile']; rfl), hopens.again _⟩
  · exact
      { directories := rfl
        places := fun _ _ => Iff.rfl
        timely := htimely'
        shows := ⟨text, fs'.clock, hprint, FileSystem.file?_store_self _ _ _⟩
        seen := fun other hother => by cases hfile'.symm.trans hother; rfl
        past := htimely' _ _ hfile' }
  · exact generate_printable hargs.isLocal hfirst hnamed hargs.skipFormat hargs.verify hopens
      hprint hencodes (tell_yields hsummary _)
  · exact FileSystem.modified?_eq_some.2 ⟨_, file, hwalk, hfile', rfl⟩

/-- A run that watches a file, and what it meets: the output file could be written as the files are
at first, the edits are of the input, and each text of it that is read is loaded or fails in a way
that is told. -/
structure Watches (platform : Platform) (words : List String) (args : Arguments) (session : Session)
    (steps : List (List Edit)) : Prop where
  parses : Arguments.parse words = .ok args
  arguments : WatchesOnly args
  timely : session.files.Timely
  opens : ∃ after, (write args "").run session = (.ok (), after)
  isTold : Load.isTold (Spec.ofFile platform.conforms session.files args.input) = true
  steps : ∀ edits ∈ steps, Seeable platform args edits

namespace Watches

variable {words : List String} {session : Session} {steps : List (List Edit)}

theorem generates (h : Watches platform words args session steps)
    (hnamed : args.isClassNamed = true)
    (hfirst : Spec.ofFile platform.conforms session.files args.input = .ok first)
    (hwritable : Writable platform args first) :
    ∃ (base : FileSystem) (last : Nat),
      Reachable args base ∧ Current platform args base first last base ∧
        Yields (generate platform args) session.files (.ok 0) base ∧
        base.modified? (.ofString args.input) = some (last : Int) := by
  obtain ⟨_, hwrite⟩ := h.opens
  obtain ⟨_, hopens⟩ := opens_of_run hwrite
  exact exists_current h.arguments hnamed h.timely hopens hfirst hwritable

theorem begins (h : Watches platform words args session steps)
    (hnamed : args.isClassNamed = true) (hannounced : Text.HasBytes (announcement args))
    (hfirst : Spec.ofFile platform.conforms session.files args.input = .ok first)
    (hwritable : Writable platform args first) :
    ∃ (base : FileSystem) (last : Nat),
      Reachable args base ∧ Current platform args base first last base ∧
        Yields (begin platform words) session.files (.ok (.watching args 0 (some (last : Int))))
          base := by
  obtain ⟨base, last, hreachable, hcurrent, hgenerate, htime⟩ :=
    h.generates hnamed hfirst hwritable
  refine ⟨base, last, hreachable, hcurrent, ?_⟩
  rw [begin_eq h.parses h.arguments, ← htime]
  exact .tryCatch_ok (start_yields h.arguments hgenerate hannounced)

end Watches

/-- Nothing that a run meets stops it: a class name is given, what is said can be put in bytes, and
all that is loaded can be written. -/
structure Undisturbed (platform : Platform) (args : Arguments) (first : Spec)
    (steps : List (List Edit)) : Prop where
  named : args.isClassNamed = true
  announced : Text.HasBytes (announcement args)
  first : Writable platform args first
  looks : ∀ edits ∈ steps, Passable platform args edits

namespace Watches

variable {words : List String} {session : Session} {steps : List (List Edit)}

theorem stops (h : Watches platform words args session steps)
    (hfirst : Spec.ofFile platform.conforms session.files args.input = .ok first)
    (hbad : ¬Undisturbed platform args first steps) :
    ∃ failure after, Yields (run platform words steps) session.files (.error failure) after := by
  cases hnamed : args.isClassNamed with
  | false =>
    have hgenerate := generate_unnamed h.arguments.isLocal hfirst hnamed
    exact ⟨_, _, run_of_failure h.parses h.arguments hgenerate.bind_error rfl steps⟩
  | true =>
    by_cases hwritable : Writable platform args first
    · cases hannounced : Text.encodingError? (announcement args) with
      | none =>
        obtain ⟨base, last, hreachable, hcurrent, hbegin⟩ :=
          h.begins hnamed hannounced hfirst hwritable
        obtain ⟨failure, after, hpolls⟩ :=
          hcurrent.stoppedAll h.arguments hreachable hnamed h.steps fun hlooks =>
            hbad ⟨hnamed, hannounced, hwritable, hlooks⟩
        exact ⟨failure, after, hbegin.bind hpolls.bind_error⟩
      | some e =>
        obtain ⟨base, -, -, -, hgenerate, -⟩ := h.generates hnamed hfirst hwritable
        exact ⟨_, _, run_of_failure h.parses h.arguments
          (start_unannounced h.arguments hgenerate hannounced) rfl steps⟩
    · obtain ⟨_, hwrite⟩ := h.opens
      obtain ⟨_, hopens⟩ := opens_of_run hwrite
      obtain ⟨failure, after, hfailure, hgenerate⟩ := generate_unwritable h.arguments.isLocal
        hfirst hnamed h.arguments.skipFormat h.arguments.verify hopens hwritable
      exact ⟨failure, after, run_of_failure h.parses h.arguments hgenerate.bind_error hfailure
        steps⟩

end Watches

/-- A first document that cannot be loaded ends the run and changes nothing. Otherwise the output
file holds after every look the module of the last version that was loaded and the status is that of
the first generation, exactly if nothing disturbs the run. -/
theorem watching_shows_iff {words : List String} {session : Session} {steps : List (List Edit)}
    (h : Watches platform words args session steps) :
    (∀ e, Spec.ofFile platform.conforms session.files args.input = .error e →
      ∃ after, (run platform words steps).run session = (.ok 2, after) ∧
        after.files = session.files) ∧
    ∀ first, Spec.ofFile platform.conforms session.files args.input = .ok first →
      ((∀ n, ∃ after, (run platform words (steps.take n)).run session = (.ok 0, after) ∧
          ∃ spec ∈ (versions platform args session.files (steps.take n)).getLast?,
            Shows platform args after.files spec) ↔
        Undisturbed platform args first steps) := by
  refine ⟨fun e he => ?_, fun first hfirst => ⟨fun hruns => ?_, fun hundisturbed n => ?_⟩⟩
  · exact run_of_load_error h.parses h.arguments he (reported_of_isTold h.isTold he) steps
      session rfl
  · by_contra hbad
    obtain ⟨failure, after, hfails⟩ := h.stops hfirst hbad
    obtain ⟨_, hrun, -⟩ := hruns steps.length
    rw [List.take_length] at hrun
    obtain ⟨hcontra, -⟩ := hfails.unique rfl hrun
    cases hcontra
  · obtain ⟨hnamed, hannounced, hwritable, hlooks⟩ := hundisturbed
    obtain ⟨base, last, hreachable, hcurrent, hbegin⟩ :=
      h.begins hnamed hannounced hfirst hwritable
    obtain ⟨last', fs', hpolls, hafter⟩ := hcurrent.polledAll h.arguments hreachable hnamed
      (fun edits hedits => h.steps edits (List.mem_of_mem_take hedits))
      (fun edits hedits => hlooks edits (List.mem_of_mem_take hedits))
    have hstopped : Text.HasBytes "Stopped watching." :=
      Text.hasBytes_of_ascii (by decide +kernel)
    have hyields : Yields (run platform words (steps.take n)) session.files (.ok 0) fs' :=
      hbegin.bind (hpolls.bind ((say_yields hstopped fs').bind (.pure 0 fs')))
    obtain ⟨after, hrun, rfl⟩ := hyields session rfl
    refine ⟨after, hrun, _, ?_, hafter.shows⟩
    rw [versions, hfirst]
    exact List.getLast?_cons

/-! A file under watch. -/

def watchWords : List String := ["-i", "s.yaml", "-o", "o.py", "--watch", "--skip-format"]

def watchArguments : Arguments where
  input := "s.yaml"
  output := "o.py"
  options := {}
  isClassNamed := true
  verify := false
  watch := true
  skipFormat := true
  verbose := false

def firstText : String := "openapi: 3.0.0\ninfo: \x7btitle: T, version: v\x7d\npaths: \x7b\x7d\n"

def nextText : String := "openapi: 3.0.0\ninfo: \x7btitle: U, version: v\x7d\npaths: \x7b\x7d\n"

/-- A schema is called like half of a surrogate pair. -/
def halfText : String :=
  firstText ++ "components: \x7bschemas: \x7b\"\\ud800\": \x7btype: object\x7d\x7d\x7d\n"

def watchSession : Session where
  files := ⟨[(["s.yaml"], ⟨.ok firstText, 0⟩)], [], 1⟩
  replies := []
  fetch := fun _ => .failure ""

def editTo (text : Option String) : List Edit := [⟨.ofString "s.yaml", text⟩]

def loadedFrom (text : String) : Except LoadError Spec :=
  Load.specOfText Platform.standard.conforms watchArguments.input text

theorem newVersion?_editTo (text : Option String) :
    newVersion? .standard watchArguments (editTo text) =
      text.bind fun text => (loadedFrom text).toOption :=
  rfl

def givesAscii (loaded : Except LoadError Spec) : Bool :=
  let isAscii (s : String) := s.toByteArray.data.toList.all (· < 128)
  match loaded with
  | .ok spec =>
    match printed .standard watchArguments spec with
    | .ok text => isAscii text && (summary watchArguments spec).all isAscii
    | .error _ => false
  | .error _ => false

theorem writable_of_givesAscii {loaded : Except LoadError Spec} (h : givesAscii loaded = true) :
    ∃ spec, loaded = .ok spec ∧ Writable .standard watchArguments spec := by
  cases loaded with
  | error e => cases h
  | ok spec =>
    refine ⟨spec, rfl, ?_⟩
    rw [givesAscii] at h
    cases hprint : printed .standard watchArguments spec with
    | error e => rw [hprint] at h; cases h
    | ok text =>
      simp only [hprint, Bool.and_eq_true] at h
      exact ⟨⟨text, hprint, Text.hasBytes_of_ascii h.1⟩, fun line hline =>
        Text.hasBytes_of_ascii (List.all_eq_true.1 h.2 line hline)⟩

theorem firstText_loads :
    ∃ spec, Spec.ofFile Platform.standard.conforms watchSession.files watchArguments.input =
      .ok spec ∧ Writable .standard watchArguments spec :=
  writable_of_givesAscii (by decide +kernel)

theorem watches_watchSession {steps : List (List Edit)}
    (hsteps : ∀ edits ∈ steps, Seeable .standard watchArguments edits) :
    Watches .standard watchWords watchArguments watchSession steps where
  parses := rfl
  arguments := ⟨rfl, rfl, rfl, rfl, by decide⟩
  timely := by
    intro place file hfile
    rw [FileSystem.file?, watchSession, List.lookup_cons] at hfile
    split at hfile
    next => cases hfile; decide
    next => cases hfile
  opens := by
    have hopens : Opens watchArguments watchSession.files watchSession.files :=
      ⟨.isThere (by decide), by decide, by decide⟩
    have hyields : Yields (write watchArguments "") watchSession.files (.ok ()) _ :=
      write_yields hopens rfl
    obtain ⟨after, hrun, -⟩ := hyields watchSession rfl
    exact ⟨after, hrun⟩
  isTold := by
    obtain ⟨first, hfirst, -⟩ := firstText_loads
    rw [hfirst]
    rfl
  steps := hsteps

theorem announced_watchArguments : Text.HasBytes (announcement watchArguments) :=
  Text.hasBytes_of_ascii (by decide +kernel)

def restoringSteps : List (List Edit) := [editTo (some "x"), editTo none, editTo (some nextText)]

theorem restoring_shows :
    Watches .standard watchWords watchArguments watchSession restoringSteps ∧
      ∀ n, ∃ after,
        (run .standard watchWords (restoringSteps.take n)).run watchSession = (.ok 0, after) ∧
          ∃ spec ∈ (versions .standard watchArguments watchSession.files
              (restoringSteps.take n)).getLast?,
            Shows .standard watchArguments after.files spec := by
  obtain ⟨first, hfirst, hfirstWritable⟩ := firstText_loads
  obtain ⟨next, hnext, hnextWritable⟩ :
      ∃ spec, loadedFrom nextText = .ok spec ∧ Writable .standard watchArguments spec :=
    writable_of_givesAscii (by decide +kernel)
  obtain ⟨e, hspoilt, he, hcomplaint⟩ : ∃ e, loadedFrom "x" = .error e ∧ e.isReported = true ∧
      Text.HasBytes (complaint (.load e)) := by
    have hcheck : (match loadedFrom "x" with
      | .error e => e.isReported && (complaint (.load e)).toByteArray.data.toList.all (· < 128)
      | .ok _ => false) = true := by decide +kernel
    split at hcheck
    next e h =>
      obtain ⟨he, hbytes⟩ := Bool.and_eq_true_iff.1 hcheck
      exact ⟨e, h, he, Text.hasBytes_of_ascii hbytes⟩
    next => cases hcheck
  have hwatches : Watches .standard watchWords watchArguments watchSession restoringSteps := by
    refine watches_watchSession fun edits hedits => ⟨?_, fun text htext => ?_⟩
    · revert edits
      decide
    · simp only [restoringSteps, List.mem_cons, List.not_mem_nil, or_false] at hedits
      rcases hedits with rfl | rfl | rfl
      · cases htext
        change Load.isTold (loadedFrom "x") = true
        rw [hspoilt]
        exact he
      · cases htext
      · cases htext
        change Load.isTold (loadedFrom nextText) = true
        rw [hnext]
        rfl
  have hlooks : ∀ edits ∈ restoringSteps, Passable .standard watchArguments edits := by
    simp only [restoringSteps, List.forall_mem_cons, List.not_mem_nil, false_imp_iff,
      implies_true, and_true]
    refine ⟨⟨?_, ?_⟩, passable_of_unseen rfl, ⟨?_, ?_⟩⟩
    · simp [newVersion?_editTo, hspoilt, Except.toOption]
    · rw [complaint?_of_seen rfl hspoilt]
      simpa using hcomplaint
    · simpa [newVersion?_editTo, hnext, Except.toOption] using hnextWritable
    · have hnone : complaint? .standard watchArguments (editTo (some nextText)) = none := by
        change (match loadedFrom nextText with
          | .ok _ => none
          | .error e => some (complaint (.load e))) = none
        rw [hnext]
      simp [hnone]
  exact ⟨hwatches, ((watching_shows_iff hwatches).2 first hfirst).2
    ⟨rfl, announced_watchArguments, hfirstWritable, hlooks⟩⟩

def givesHalf (loaded : Except LoadError Spec) : Bool :=
  match loaded with
  | .ok spec =>
    match printed .standard watchArguments spec with
    | .ok text =>
      let bytes := text.toByteArray.data.toList
      match Text.decodeFrom 0 none [] bytes with
      | .ok cs => cs.flatMap String.utf8EncodeChar == bytes && cs.any Text.isLone
      | .error _ => false
    | .error _ => false
  | .error _ => false

theorem exists_of_givesHalf {loaded : Except LoadError Spec} (h : givesHalf loaded = true) :
    ∃ spec text e, loaded = .ok spec ∧ printed .standard watchArguments spec = .ok text ∧
      Text.encodingError? text = some e := by
  cases loaded with
  | error e => cases h
  | ok spec =>
    rw [givesHalf] at h
    cases hprint : printed .standard watchArguments spec with
    | error e => rw [hprint] at h; cases h
    | ok text =>
      simp only [hprint] at h
      split at h
      next cs hdecode =>
        obtain ⟨hbytes, hhalf⟩ := Bool.and_eq_true_iff.1 h
        have htext : text.toList = cs := by
          refine Text.flatMap_utf8EncodeChar_injective ?_
          rw [← Text.bytes_eq, eq_of_beq hbytes]
        cases hencodes : Text.encodingError? text with
        | some e => exact ⟨spec, text, e, rfl, hprint, hencodes⟩
        | none =>
          obtain ⟨c, hc, hlone⟩ := List.any_eq_true.1 hhalf
          rw [Text.hasBytes_iff.1 hencodes c (htext ▸ hc)] at hlone
          cases hlone
      next => cases h

theorem half_stops :
    Watches .standard watchWords watchArguments watchSession [editTo (some halfText)] ∧
      (∃ new, loadedFrom halfText = .ok new) ∧
      ∃ e after time, (run .standard watchWords [editTo (some halfText)]).run watchSession =
          (.error (.write (.encoding e)), after) ∧
        after.files.file? (outputPlace watchArguments) = some ⟨.ok "", time⟩ := by
  obtain ⟨first, hfirst, hfirstWritable⟩ := firstText_loads
  obtain ⟨new, text, e, hnew, hprint, hencodes⟩ :
      ∃ spec text e, loadedFrom halfText = .ok spec ∧
        printed .standard watchArguments spec = .ok text ∧ Text.encodingError? text = some e :=
    exists_of_givesHalf (by decide +kernel)
  have hwatches :
      Watches .standard watchWords watchArguments watchSession [editTo (some halfText)] := by
    refine watches_watchSession fun edits hedits => ?_
    obtain rfl := List.mem_singleton.1 hedits
    refine ⟨by decide, fun text htext => ?_⟩
    cases htext
    change Load.isTold (loadedFrom halfText) = true
    rw [hnew]
    rfl
  obtain ⟨base, last, hreachable, hcurrent, hbegin⟩ :=
    hwatches.begins rfl announced_watchArguments hfirst hfirstWritable
  have hplaces : ∀ e ∈ editTo (some halfText), e.path.place = inputPlace watchArguments := by
    decide
  obtain ⟨time, -, hcurrent', hfile⟩ := hcurrent.seeing hwatches.arguments hplaces rfl
  obtain ⟨hopens, -, hload⟩ := hcurrent'.input hreachable hfile
  have hgenerate := generate_unencodable hwatches.arguments.isLocal (hload.trans hnew) rfl hopens
    hprint hencodes
  have hpoll := hcurrent.failing hwatches.arguments hreachable hplaces rfl
    (regenerate_of_unreported hgenerate rfl)
  have hyields : Yields (run .standard watchWords [editTo (some halfText)]) watchSession.files
      (.error (.write (.encoding e))) _ := hbegin.bind hpoll.bind_error.bind_error
  obtain ⟨after, hrun, hafter⟩ := hyields watchSession rfl
  exact ⟨hwatches, ⟨new, hnew⟩, e, after, _, hrun, hafter ▸ FileSystem.file?_store_self _ _ _⟩

end Session

end TypedClient
