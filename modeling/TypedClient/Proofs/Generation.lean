import TypedClient.Session
import TypedClient.Proofs.FileSystem
import Mathlib.Data.List.TakeWhile

/-!
How a generation ends and which files it leaves. Nothing is written before the document was loaded
and its module printed, and what is said on the way changes no file.
-/

namespace TypedClient

/-! Texts that have bytes. -/

namespace Text

abbrev HasBytes (s : String) : Prop := encodingError? s = none

theorem encodingErrorBut?_eq_none {isExcepted : Char → Bool} {s : String} :
    encodingErrorBut? isExcepted s = none ↔ ∀ c ∈ s.toList, isLone c → isExcepted c := by
  have hsplit := List.takeWhile_append_dropWhile (p := fun c => !isLone c || isExcepted c)
    (l := s.toList)
  have hdrop : s.toList.drop (s.toList.takeWhile fun c => !isLone c || isExcepted c).length =
      s.toList.dropWhile fun c => !isLone c || isExcepted c :=
    (congrArg (List.drop _) hsplit.symm).trans List.drop_left
  have hall : (∀ c ∈ s.toList, isLone c → isExcepted c) ↔
      (s.toList.dropWhile fun c => !isLone c || isExcepted c) = [] := by
    rw [List.dropWhile_eq_nil_iff]
    exact forall₂_congr fun c _ => by simp [imp_iff_not_or]
  simp only [encodingErrorBut?, hdrop, hall]
  cases hrest : s.toList.dropWhile fun c => !isLone c || isExcepted c with
  | nil => simp
  | cons c rest =>
    have hfirst := List.head?_dropWhile_not (fun c => !isLone c || isExcepted c) s.toList
    simp only [hrest, List.head?_cons, Bool.or_eq_false_iff] at hfirst
    simp [show isLone c = true by simpa using hfirst.1]

theorem hasBytes_iff {s : String} : HasBytes s ↔ ∀ c ∈ s.toList, isLone c = false := by
  simp [HasBytes, encodingError?, encodingErrorBut?_eq_none]

theorem bytes_eq (s : String) :
    s.toByteArray.data.toList = s.toList.flatMap String.utf8EncodeChar := by
  rw [← String.utf8Encode_toList, List.utf8Encode, List.data_toByteArray]

theorem flatMap_utf8EncodeChar_injective {cs cs' : List Char}
    (h : cs.flatMap String.utf8EncodeChar = cs'.flatMap String.utf8EncodeChar) : cs = cs' := by
  have hbytes : (String.ofList cs).toByteArray = (String.ofList cs').toByteArray := by
    simp [List.utf8Encode, h]
  simpa using congrArg String.toList (String.toByteArray_inj.1 hbytes)

theorem toNat_lt_of_utf8EncodeChar {c : Char} (h : ∀ b ∈ String.utf8EncodeChar c, b < 128) :
    c.toNat < 128 := by
  by_contra hc
  have hlast : UInt8.ofNat (c.val.toNat % 64 + 128) ∈ String.utf8EncodeChar c := by
    have hlong : ¬c.val.toNat ≤ 127 := fun hle => hc (Nat.lt_succ_of_le hle)
    rw [String.utf8EncodeChar]
    simp only [if_neg hlong]
    split
    next => simp
    next => split <;> simp
  have hsmall := UInt8.lt_iff_toNat_lt.1 (h _ hlast)
  simp at hsmall
  omega

theorem hasBytes_of_ascii {s : String} (h : s.toByteArray.data.toList.all (· < 128)) :
    HasBytes s := by
  refine hasBytes_iff.2 fun c hc => ?_
  have hsmall : c.toNat < 128 := toNat_lt_of_utf8EncodeChar fun b hb =>
    of_decide_eq_true (List.all_eq_true.1 h b
      (by rw [bytes_eq]; exact List.mem_flatMap.2 ⟨c, hc, hb⟩))
  rw [isLone, Bool.eq_false_iff, Ne, isHalf_iff, halfOffset]
  omega

end Text

namespace Session

variable {α β ε : Type} {x : Run α} {f : α → Run β} {a : α} {b : β} {e : Failure}
  {r : Except Failure β} {s t : Session} {fs fs' fs'' : FileSystem}

theorem run_bind (x : Run α) (f : α → Run β) (s : Session) :
    (x >>= f).run s =
      match x.run s with
      | (.ok a, t) => (f a).run t
      | (.error e, t) => (.error e, t) := by
  simp only [ExceptT.bind, ExceptT.run, ExceptT.mk, bind, StateT.bind]
  cases x s with
  | mk r t => cases r <;> rfl

theorem run_get_bind (f : Session → Run β) (s : Session) : (get >>= f).run s = (f s).run s := rfl

theorem run_tryCatch (x : Run α) (handle : Failure → Run α) (s : Session) :
    (tryCatch x handle).run s =
      match x.run s with
      | (.ok a, t) => (.ok a, t)
      | (.error e, t) => (handle e).run t := by
  simp only [tryCatch, tryCatchThe, MonadExceptOf.tryCatch, ExceptT.tryCatch, ExceptT.run,
    ExceptT.mk, bind, StateT.bind]
  cases x s with
  | mk r t => cases r <;> rfl

theorem exists_of_run_bind (h : (x >>= f).run s = (.ok b, t)) :
    ∃ a s', x.run s = (.ok a, s') ∧ (f a).run s' = (.ok b, t) := by
  rw [run_bind] at h
  split at h
  next a s' hx => exact ⟨a, s', hx, h⟩
  next => cases h

theorem of_run_attempt {failure : ε → Failure} {y : Except ε α}
    (h : (attempt failure y).run s = (.ok a, t)) : y = .ok a ∧ t = s := by
  cases y with
  | error e => cases h
  | ok a' => cases h; exact ⟨rfl, rfl⟩

/-- On these files a part of a run ends so and leaves those files, whatever was said before. -/
def Yields (x : Run α) (fs : FileSystem) (r : Except Failure α) (fs' : FileSystem) : Prop :=
  ∀ s : Session, s.files = fs → ∃ t, x.run s = (r, t) ∧ t.files = fs'

namespace Yields

theorem unique {r r' : Except Failure α} (h : Yields x fs r fs') (hs : s.files = fs)
    (hrun : x.run s = (r', t)) : r' = r ∧ t.files = fs' := by
  obtain ⟨t', hrun', ht'⟩ := h s hs
  rw [hrun] at hrun'
  obtain ⟨rfl, rfl⟩ := Prod.mk.inj hrun'
  exact ⟨rfl, ht'⟩

protected theorem pure (a : α) (fs : FileSystem) : Yields (pure a) fs (.ok a) fs :=
  fun s hs => ⟨s, rfl, hs⟩

protected theorem throw (e : Failure) (fs : FileSystem) :
    Yields (throw e : Run α) fs (.error e) fs :=
  fun s hs => ⟨s, rfl, hs⟩

theorem bind (hx : Yields x fs (.ok a) fs') (hf : Yields (f a) fs' r fs'') :
    Yields (x >>= f) fs r fs'' := by
  intro s hs
  obtain ⟨t, hrun, ht⟩ := hx s hs
  rw [run_bind, hrun]
  exact hf t ht

theorem bind_error (hx : Yields x fs (.error e) fs') : Yields (x >>= f) fs (.error e) fs' := by
  intro s hs
  obtain ⟨t, hrun, ht⟩ := hx s hs
  rw [run_bind, hrun]
  exact ⟨t, rfl, ht⟩

theorem get_bind {f : Session → Run β} (hf : ∀ s, s.files = fs → Yields (f s) fs r fs') :
    Yields (get >>= f) fs r fs' :=
  fun s hs => hf s hs s hs

theorem tryCatch_ok {handle : Failure → Run α} (hx : Yields x fs (.ok a) fs') :
    Yields (tryCatch x handle) fs (.ok a) fs' := by
  intro s hs
  obtain ⟨t, hrun, ht⟩ := hx s hs
  rw [run_tryCatch, hrun]
  exact ⟨t, rfl, ht⟩

theorem tryCatch_error {handle : Failure → Run α} {r : Except Failure α}
    (hx : Yields x fs (.error e) fs') (hhandle : Yields (handle e) fs' r fs'') :
    Yields (tryCatch x handle) fs r fs'' := by
  intro s hs
  obtain ⟨t, hrun, ht⟩ := hx s hs
  rw [run_tryCatch, hrun]
  exact hhandle t ht

theorem discard_ok (hx : Yields x fs (.ok a) fs') : Yields (discard x) fs (.ok ()) fs' :=
  hx.bind (.pure () fs')

theorem discard_error (hx : Yields x fs (.error e) fs') : Yields (discard x) fs (.error e) fs' :=
  hx.bind_error

theorem forM {as : List α} {f : α → Run PUnit} (h : ∀ a ∈ as, Yields (f a) fs (.ok ()) fs) :
    Yields (as.forM f) fs (.ok ()) fs := by
  induction as with
  | nil => exact .pure () fs
  | cons a as ih =>
    rw [List.forall_mem_cons] at h
    exact h.1.bind (ih h.2)

end Yields

theorem attempt_yields (failure : ε → Failure) (y : Except ε α) (fs : FileSystem) :
    Yields (attempt failure y) fs (y.mapError failure) fs := by
  cases y with
  | error e => exact .throw (failure e) fs
  | ok a => exact .pure a fs

theorem attempt_yields_ok {failure : ε → Failure} {y : Except ε α} (h : y = .ok a)
    (fs : FileSystem) : Yields (attempt failure y) fs (.ok a) fs :=
  h ▸ attempt_yields failure (.ok a) fs

theorem setFiles_yields (fs fs' : FileSystem) : Yields (setFiles fs') fs (.ok ()) fs' :=
  fun s _ => ⟨{ s with files := fs' }, rfl, rfl⟩

theorem say_yields {line : String} (h : Text.HasBytes line) (fs : FileSystem) :
    Yields (say line) fs (.ok ()) fs := by
  rw [say, h]
  exact fun s hs => ⟨{ s with output := s.output ++ [line] }, rfl, hs⟩

theorem say_unencodable {line : String} {e : EncodingError} (h : Text.encodingError? line = some e)
    (fs : FileSystem) : Yields (say line) fs (.error (.output e)) fs := by
  rw [say, h]
  exact .throw (.output e) fs

theorem sayAll_yields {lines : List String} (h : ∀ line ∈ lines, Text.HasBytes line)
    (fs : FileSystem) : Yields (lines.forM say) fs (.ok ()) fs :=
  .forM fun line hline => say_yields (h line hline) fs

theorem sayAll_unencodable {lines : List String} (h : ¬∀ line ∈ lines, Text.HasBytes line)
    (fs : FileSystem) : ∃ e, Yields (lines.forM say) fs (.error (.output e)) fs := by
  induction lines with
  | nil => exact absurd (by simp) h
  | cons line rest ih =>
    cases hline : Text.encodingError? line with
    | some e => exact ⟨e, (say_unencodable hline fs).bind_error⟩
    | none =>
      obtain ⟨e, hrest⟩ := ih fun hall => h (List.forall_mem_cons.2 ⟨hline, hall⟩)
      exact ⟨e, (say_yields hline fs).bind hrest⟩

theorem note_yields (args : Arguments) (notice : Notice) (fs : FileSystem) :
    Yields (note args notice) fs (.ok ()) fs := by
  rw [note]
  split
  next => exact fun s hs => ⟨{ s with log := s.log ++ [notice.text] }, rfl, hs⟩
  next => exact .pure () fs

variable {platform : Platform} {args : Arguments} {spec : Spec} {text : String}

/-! Writing. -/

inductive Ready (path : Path) (fs : FileSystem) : FileSystem → Prop
  | isThere : fs.exists? path = .ok true → Ready path fs fs
  | made {fs' : FileSystem} :
      fs.exists? path = .ok false → fs.makeDirectories path = .ok fs' → Ready path fs fs'

theorem Ready.prepared {path : Path} (h : Ready path fs fs') : fs.Prepared path fs' := by
  cases h with
  | isThere h => exact ⟨rfl, rfl, fun _ hd => hd, h⟩
  | made _ h => exact .makeDirectories h

def outputPlace (args : Arguments) : List String := (outputPath args).place

/-- The output file can be written: its directory is there, or it is after it was made, and the file
is no directory. -/
structure Opens (args : Arguments) (fs fs' : FileSystem) : Prop where
  ready : Ready (outputPath args).parent fs fs'
  walk : fs'.walk (outputPath args) = .ok (outputPlace args)
  isFile : ¬fs'.isDirectory (outputPlace args)

namespace Opens

theorem again (h : Opens args fs fs') (text : Except DecodingError String) :
    Opens args (fs'.store (outputPlace args) text) (fs'.store (outputPlace args) text) :=
  have hwithin := FileSystem.Within.store fs' (outputPlace args) text
  ⟨.isThere (hwithin.exists? h.ready.prepared.isThere), hwithin.walk h.walk,
    mt (FileSystem.isDirectory_store_self fs' _ _).1 h.isFile⟩

theorem within (h : Opens args fs fs) (hwithin : fs.Within fs') (hwithin' : fs'.Within fs) :
    Opens args fs' fs' :=
  ⟨.isThere (hwithin.exists? h.ready.prepared.isThere), hwithin.walk h.walk,
    fun hdir => h.isFile (hwithin'.isDirectory hdir)⟩

end Opens

theorem prepare_yields (h : Ready (outputPath args).parent fs fs') :
    Yields (prepare args) fs (.ok ()) fs' := by
  rw [prepare]
  refine .get_bind fun s hs => ?_
  subst hs
  cases h with
  | isThere hexists => exact (attempt_yields_ok hexists _).bind (.pure () _)
  | made hexists hmake =>
    refine (attempt_yields_ok hexists _).bind ((note_yields args _ _).bind ?_)
    refine .get_bind fun s hs => ?_
    exact (attempt_yields_ok (hs ▸ hmake) _).bind (setFiles_yields _ fs')

theorem ready_of_run (h : (prepare args).run s = (.ok (), t)) :
    Ready (outputPath args).parent s.files t.files := by
  rw [prepare] at h
  obtain ⟨_, _, hget, h⟩ := exists_of_run_bind h
  cases hget
  obtain ⟨isThere, _, hexists, h⟩ := exists_of_run_bind h
  obtain ⟨hexists, rfl⟩ := of_run_attempt hexists
  cases isThere with
  | true => cases h; exact .isThere hexists
  | false =>
    obtain ⟨_, s', hnote, h⟩ := exists_of_run_bind h
    obtain ⟨-, hs'⟩ := (note_yields args _ _).unique rfl hnote
    obtain ⟨_, _, hget, h⟩ := exists_of_run_bind h
    cases hget
    obtain ⟨made, _, hmake, hset⟩ := exists_of_run_bind h
    obtain ⟨hmake, rfl⟩ := of_run_attempt hmake
    obtain ⟨-, rfl⟩ := (setFiles_yields _ made).unique rfl hset
    rw [hs'] at hmake
    exact .made hexists hmake

theorem store_yields (h : Opens args fs fs') (text : String) :
    Yields (store args text) fs' (.ok ()) (fs'.store (outputPlace args) (.ok text)) := by
  have hwrite : fs'.write (outputPath args) text =
      .ok (fs'.store (outputPlace args) (.ok text)) :=
    FileSystem.write_eq_ok.2 ⟨_, h.walk, h.isFile, rfl⟩
  rw [store]
  refine .get_bind fun s hs => ?_
  subst hs
  exact (attempt_yields_ok hwrite _).bind (setFiles_yields _ _)

theorem write_yields (h : Opens args fs fs') (hencodes : Text.HasBytes text) :
    Yields (write args text) fs (.ok ()) (fs'.store (outputPlace args) (.ok text)) := by
  rw [write, hencodes]
  exact (prepare_yields h.ready).bind
    ((store_yields h text).bind (note_yields args _ _))

theorem write_unencodable {e : EncodingError} (h : Opens args fs fs')
    (hencodes : Text.encodingError? text = some e) :
    Yields (write args text) fs (.error (.write (.encoding e)))
      (fs'.store (outputPlace args) (.ok "")) := by
  rw [write, hencodes]
  refine (prepare_yields h.ready).bind ((store_yields h "").bind ?_)
  exact (Yields.throw _ _).bind_error

theorem opens_of_run_store {fs : FileSystem} (hready : Ready (outputPath args).parent fs s.files)
    (h : (store args text).run s = (.ok (), t)) : Opens args fs s.files := by
  rw [store] at h
  obtain ⟨_, _, hget, h⟩ := exists_of_run_bind h
  cases hget
  obtain ⟨files, _, hwrite, -⟩ := exists_of_run_bind h
  obtain ⟨hwrite, -⟩ := of_run_attempt hwrite
  obtain ⟨place, hwalk, hdir, -⟩ := FileSystem.write_eq_ok.1 hwrite
  obtain rfl : place = outputPlace args := FileSystem.place_of_walk hwalk
  exact ⟨hready, hwalk, hdir⟩

theorem opens_of_run (h : (write args text).run s = (.ok (), t)) :
    ∃ fs', Opens args s.files fs' := by
  rw [write] at h
  obtain ⟨_, s', hprepare, h⟩ := exists_of_run_bind h
  refine ⟨s'.files, ?_⟩
  cases hencodes : Text.encodingError? text with
  | none =>
    rw [hencodes] at h
    obtain ⟨_, _, hstore, -⟩ := exists_of_run_bind h
    exact opens_of_run_store (ready_of_run hprepare) hstore
  | some e =>
    rw [hencodes] at h
    obtain ⟨_, _, hstore, -⟩ := exists_of_run_bind h
    exact opens_of_run_store (ready_of_run hprepare) hstore

/-! Generating. -/

/-- The module of a document can be printed, and its text and all that is said of it have bytes. -/
structure Writable (platform : Platform) (args : Arguments) (spec : Spec) : Prop where
  module : ∃ text, printed platform args spec = .ok text ∧
    Text.HasBytes text
  summary : ∀ line ∈ summary args spec, Text.HasBytes line

theorem tell_yields (h : ∀ line ∈ summary args spec, Text.HasBytes line) (fs : FileSystem) :
    Yields (tell args spec none) fs (.ok 0) fs :=
  (sayAll_yields h fs).bind (.pure 0 fs)

theorem tell_unencodable (h : ¬∀ line ∈ summary args spec, Text.HasBytes line)
    (fs : FileSystem) : ∃ e, Yields (tell args spec none) fs (.error (.output e)) fs :=
  (sayAll_unencodable h fs).imp fun _ hsay => hsay.bind_error

section

variable (hlocal : Load.isUrl args.input = false)
include hlocal

theorem load_yields (fs : FileSystem) :
    Yields (load platform args) fs
      ((Spec.ofFile platform.conforms fs args.input).mapError .load) fs := by
  rw [load, hlocal]
  refine (note_yields args _ fs).bind (.get_bind fun s hs => ?_)
  subst hs
  exact attempt_yields _ _ _

theorem load_of_ok (h : Spec.ofFile platform.conforms fs args.input = .ok spec) :
    Yields (load platform args) fs (.ok spec) fs := by
  have hload : Yields (load platform args) fs _ fs := load_yields hlocal fs
  rwa [h] at hload

theorem generate_of_load_error {e : LoadError}
    (h : Spec.ofFile platform.conforms fs args.input = .error e) :
    Yields (generate platform args) fs (.error (.load e)) fs := by
  have hload : Yields (load platform args) fs _ fs := load_yields hlocal fs
  rw [h] at hload
  exact hload.bind_error

theorem generate_unnamed (h : Spec.ofFile platform.conforms fs args.input = .ok spec)
    (hnamed : args.isClassNamed = false) :
    Yields (generate platform args) fs (.error .unnamedClass) fs := by
  rw [generate, hnamed]
  exact (load_of_ok hlocal h).bind ((note_yields args _ fs).bind (Yields.throw _ fs).bind_error)

section

variable (hload : Spec.ofFile platform.conforms fs args.input = .ok spec)
  (hnamed : args.isClassNamed = true)
include hload hnamed

theorem generate_unprintable {e : Target.PrintError}
    (hprint : printed platform args spec = .error e) :
    Yields (generate platform args) fs (.error (.print e)) fs := by
  rw [generate, hnamed]
  refine (load_of_ok hlocal hload).bind ((note_yields args _ fs).bind ?_)
  rw [hprint]
  exact (Yields.throw (.print e) fs).bind_error

theorem generate_unencodable {e : EncodingError} (hopens : Opens args fs fs')
    (hprint : printed platform args spec = .ok text)
    (hencodes : Text.encodingError? text = some e) :
    Yields (generate platform args) fs (.error (.write (.encoding e)))
      (fs'.store (outputPlace args) (.ok "")) := by
  rw [generate, hnamed]
  refine (load_of_ok hlocal hload).bind ((note_yields args _ fs).bind ?_)
  exact (attempt_yields_ok hprint fs).bind (write_unencodable hopens hencodes).bind_error

theorem generate_printable (hskip : args.skipFormat = true) (hverify : args.verify = false)
    (hopens : Opens args fs fs') (hprint : printed platform args spec = .ok text)
    (hencodes : Text.HasBytes text) {r : Except Failure Nat}
    (htell : Yields (tell args spec none) (fs'.store (outputPlace args) (.ok text)) r fs'') :
    Yields (generate platform args) fs r fs'' := by
  rw [generate, hnamed, hskip, hverify]
  refine (load_of_ok hlocal hload).bind ((note_yields args _ fs).bind ?_)
  refine (attempt_yields_ok hprint fs).bind ((write_yields hopens hencodes).bind ?_)
  exact (Yields.forM fun _ _ => note_yields args _ _).bind ((Yields.pure none _).bind htell)

theorem generate_unwritable (hskip : args.skipFormat = true) (hverify : args.verify = false)
    (hopens : Opens args fs fs') (h : ¬Writable platform args spec) :
    ∃ failure after, failure.isReported = false ∧
      Yields (generate platform args) fs (.error failure) after := by
  cases hprint : printed platform args spec with
  | error e => exact ⟨_, _, rfl, generate_unprintable hlocal hload hnamed hprint⟩
  | ok text =>
    cases hencodes : Text.encodingError? text with
    | none =>
      have hsummary : ¬∀ line ∈ summary args spec, Text.HasBytes line := fun hsummary =>
        h ⟨⟨text, hprint, hencodes⟩, hsummary⟩
      obtain ⟨e, htell⟩ := tell_unencodable hsummary (fs'.store (outputPlace args) (.ok text))
      exact ⟨_, _, rfl, generate_printable hlocal hload hnamed hskip hverify hopens hprint
        hencodes htell⟩
    | some e =>
      exact ⟨_, _, rfl, generate_unencodable hlocal hload hnamed hopens hprint hencodes⟩

end

end

/-! Failures that are told. -/

section

variable {failure : Failure} (h : (generate platform args).run s = (.error failure, t))
  (hfailure : failure.isReported = true)
include h hfailure

theorem regenerate_of_reported :
    (∃ t', (regenerate platform args).run s = (.ok (), t') ∧ t'.files = t.files) ↔
      Text.HasBytes (complaint failure) := by
  have hdiscard : (discard (generate platform args)).run s = (.error failure, t) := by
    change (generate platform args >>= fun _ => pure ()).run s = _
    rw [run_bind, h]
  simp only [regenerate, run_tryCatch, hdiscard, if_pos hfailure]
  cases hencodes : Text.encodingError? (complaint failure) with
  | none =>
    obtain ⟨t', hrun, hfiles⟩ := say_yields hencodes t.files t rfl
    exact iff_of_true ⟨t', hrun, hfiles⟩ hencodes
  | some e =>
    obtain ⟨t', hrun, -⟩ := say_unencodable hencodes t.files t rfl
    refine iff_of_false ?_ (by simp [Text.HasBytes, hencodes])
    rintro ⟨t'', hrun', -⟩
    cases hrun.symm.trans hrun'

theorem run_of_reported {words : List String} (hparse : Arguments.parse words = .ok args)
    (steps : List (List Edit)) :
    ∃ t', (run platform words steps).run s = (.ok 2, t') ∧
      (t'.files = s.files ∨ t'.files = t.files) := by
  have hrefuse : ∀ (message : String) (u : Session), ∃ t',
      (refuse message).run u = (.ok (.finished 2), t') ∧ t'.files = u.files :=
    fun _ _ => ⟨_, rfl, rfl⟩
  have hbegin : ∃ t', (begin platform words).run s = (.ok (.finished 2), t') ∧
      (t'.files = s.files ∨ t'.files = t.files) := by
    simp only [begin, hparse]
    split
    next =>
      obtain ⟨t', hrun, hfiles⟩ := hrefuse "--watch requires a local input file" s
      exact ⟨t', hrun, .inl hfiles⟩
    next =>
      have hstart : (start platform args).run s = (.error failure, t) := by rw [start, run_bind, h]
      obtain ⟨t', hrun, hfiles⟩ := hrefuse failure.message t
      refine ⟨t', ?_, .inr hfiles⟩
      rw [run_tryCatch, hstart]
      simpa only [if_pos hfailure] using hrun
  obtain ⟨t', hrun, hfiles⟩ := hbegin
  refine ⟨t', ?_, hfiles⟩
  rw [run, run_bind, hrun]
  rfl

end

end Session

end TypedClient
