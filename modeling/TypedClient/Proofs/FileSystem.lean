import TypedClient.FileSystem
import TypedClient.Proofs.Outcome

namespace TypedClient

namespace Text

theorem separator_not_mem_splitChars (separator : Char) (cs : List Char) :
    ∀ piece ∈ splitChars separator cs, separator ∉ piece := by
  induction cs with
  | nil => simp [splitChars]
  | cons c cs ih =>
    rw [splitChars]
    split
    next => simpa using ih
    next hc =>
      split
      next => simpa using Ne.symm hc
      next piece pieces hpieces =>
        rw [hpieces, List.forall_mem_cons] at ih
        rw [List.forall_mem_cons]
        exact ⟨by simp [Ne.symm hc, ih.1], ih.2⟩

end Text

namespace Path

theorem slash_not_mem_parts (s : String) : "/" ∉ (ofString s).parts := by
  intro h
  obtain ⟨piece, hpiece, hslash⟩ := List.mem_map.1 (List.mem_filter.1 h).1
  refine Text.separator_not_mem_splitChars '/' s.toList piece hpiece ?_
  rw [← String.toList_ofList (l := piece), hslash]
  decide

end Path

namespace FileSystem

variable {fs fs' : FileSystem} {path : Path} {place other : List String}

theorem lookup_setFile_self (place : List String) (file : File) (files : List (List String × File)) :
    (setFile place file files).lookup place = some file := by
  induction files with
  | nil => simp [setFile]
  | cons entry rest ih =>
    obtain ⟨p, f⟩ := entry
    rw [setFile]
    split
    next h => simp [h]
    next h => rw [List.lookup_cons, beq_false_of_ne (Ne.symm h)]; exact ih

theorem lookup_setFile_of_ne (h : other ≠ place) (file : File)
    (files : List (List String × File)) :
    (setFile place file files).lookup other = files.lookup other := by
  induction files with
  | nil => simp [setFile, List.lookup_cons, beq_false_of_ne h]
  | cons entry rest ih =>
    obtain ⟨p, f⟩ := entry
    rw [setFile]
    split
    next hp => simp [hp, List.lookup_cons, beq_false_of_ne h]
    next => rw [List.lookup_cons, List.lookup_cons, ih]

@[simp] theorem file?_store_self (fs : FileSystem) (place : List String)
    (text : Except DecodingError String) :
    (fs.store place text).file? place = some ⟨text, fs.clock⟩ :=
  lookup_setFile_self place _ fs.files

theorem file?_store_of_ne (h : other ≠ place) (text : Except DecodingError String) :
    (fs.store place text).file? other = fs.file? other :=
  lookup_setFile_of_ne h _ fs.files

theorem file?_remove (fs : FileSystem) (place other : List String) :
    (fs.remove place).file? other = if other = place then none else fs.file? other := by
  rw [file?, file?, remove]
  induction fs.files with
  | nil => simp
  | cons entry rest ih =>
    obtain ⟨p, f⟩ := entry
    by_cases hp : p = place
    · rw [List.filter_cons_of_neg (by simpa using hp), ih, List.lookup_cons]
      split
      next => rfl
      next h => rw [beq_false_of_ne (fun he => h (he.trans hp))]
    · rw [List.filter_cons_of_pos (by simpa using hp), List.lookup_cons, List.lookup_cons, ih]
      split
      next h => rw [if_neg (eq_of_beq h ▸ hp)]
      next => rfl

def Timely (fs : FileSystem) : Prop :=
  ∀ place file, fs.file? place = some file → file.modified < fs.clock

namespace Timely

theorem store (h : fs.Timely) (place : List String) (text : Except DecodingError String) :
    (fs.store place text).Timely := by
  intro other file hfile
  change file.modified < fs.clock + 1
  by_cases ho : other = place
  · subst ho
    rw [file?_store_self] at hfile
    cases hfile
    exact Nat.lt_succ_self _
  · rw [file?_store_of_ne ho] at hfile
    exact Nat.lt_succ_of_lt (h other file hfile)

theorem remove (h : fs.Timely) (place : List String) : (fs.remove place).Timely := by
  intro other file hfile
  rw [file?_remove] at hfile
  split at hfile
  next => cases hfile
  next => exact h other file hfile

end Timely

def places (fs : FileSystem) : List (List String) := fs.files.map (·.1)

theorem mem_places_store (text : Except DecodingError String) :
    other ∈ (fs.store place text).places ↔ other = place ∨ other ∈ fs.places := by
  rw [places, places, store]
  induction fs.files with
  | nil => simp [setFile]
  | cons entry rest ih =>
    obtain ⟨p, f⟩ := entry
    rw [setFile]
    split
    next h => simp [h]
    next => rw [List.map_cons, List.mem_cons, ih, List.map_cons, List.mem_cons, or_left_comm]

theorem isSome_file?_iff : (fs.file? place).isSome ↔ place ∈ fs.places := by
  rw [file?, places]
  induction fs.files with
  | nil => simp
  | cons entry rest ih =>
    rw [List.lookup_cons, List.map_cons, List.mem_cons]
    split
    next h => simp [eq_of_beq h]
    next h => rw [ih, or_iff_right (ne_of_beq_false h)]

theorem isDirectory_iff :
    fs.isDirectory place ↔
      (∀ part ∈ place, part = "..") ∨ place = ["/"] ∨ place ∈ fs.directories ∨
        ∃ below ∈ fs.places, place <+: below ∧ place ≠ below := by
  simp [isDirectory, places, or_assoc]

structure Within (fs fs' : FileSystem) : Prop where
  directories : fs.directories ⊆ fs'.directories
  places : fs.places ⊆ fs'.places

namespace Within

theorem trans {fs'' : FileSystem} (h : Within fs fs') (h' : Within fs' fs'') : Within fs fs'' :=
  ⟨fun _ hd => h'.directories (h.directories hd), fun _ hp => h'.places (h.places hp)⟩

theorem store (fs : FileSystem) (place : List String) (text : Except DecodingError String) :
    Within fs (fs.store place text) :=
  ⟨fun _ h => h, fun _ h => (mem_places_store text).2 (.inr h)⟩

theorem isDirectory (h : Within fs fs') (hdir : fs.isDirectory place) : fs'.isDirectory place := by
  rw [isDirectory_iff] at hdir ⊢
  refine hdir.imp_right (.imp_right (.imp (h.directories ·) ?_))
  rintro ⟨below, hbelow, hprefix⟩
  exact ⟨below, h.places hbelow, hprefix⟩

theorem walkFrom (h : Within fs fs') {shown : String} {parts : List String} {start : List String}
    (hwalk : fs.walkFrom shown start parts = .ok place) :
    fs'.walkFrom shown start parts = .ok place := by
  induction parts generalizing start with
  | nil => exact hwalk
  | cons part rest ih =>
    rw [FileSystem.walkFrom] at hwalk ⊢
    cases hdir : fs.isDirectory start with
    | false => rw [hdir] at hwalk; cases hwalk
    | true =>
      rw [hdir] at hwalk
      rw [h.isDirectory hdir]
      simp only [Bool.not_true, Bool.false_eq_true, if_false] at hwalk ⊢
      split
      next hpart => rw [if_pos hpart] at hwalk; exact ih hwalk
      next hpart =>
        rw [if_neg hpart] at hwalk
        split
        next hlong => rw [if_pos hlong] at hwalk; cases hwalk
        next hlong => rw [if_neg hlong] at hwalk; exact ih hwalk

theorem walk (h : Within fs fs') (hwalk : fs.walk path = .ok place) :
    fs'.walk path = .ok place := by
  rw [FileSystem.walk] at hwalk ⊢
  cases hpath : pathError? path.toString with
  | some e => rw [hpath] at hwalk; cases hwalk
  | none =>
    simp only [hpath] at hwalk ⊢
    split
    next hlong => rw [if_pos hlong] at hwalk; cases hwalk
    next hlong => rw [if_neg hlong] at hwalk; exact h.walkFrom hwalk

end Within

theorem isDirectory_store_self (fs : FileSystem) (place : List String)
    (text : Except DecodingError String) :
    (fs.store place text).isDirectory place ↔ fs.isDirectory place := by
  simp only [isDirectory_iff, mem_places_store, or_and_right, exists_or, exists_eq_left,
    ne_eq, not_true_eq_false, and_false, false_or]
  rfl

theorem above_append_concat (before : List String) {last : String} (h : last ≠ "/") :
    above (before ++ [last]) =
      if last = ".." then before ++ [last] ++ [".."] else before := by
  rw [above, List.getLast?_concat]
  by_cases hup : last = ".." <;> simp [hup]

theorem place_of_walkFrom {shown : String} {isRooted : Bool} {start found parts : List String}
    (hstart : above start = start ++ if isRooted then [] else [".."])
    (hfound : "/" ∉ found) (hparts : "/" ∉ parts)
    (hwalk : fs.walkFrom shown (start ++ found.reverse) parts = .ok place) :
    place = start ++ Path.simplify isRooted found parts := by
  induction parts generalizing found with
  | nil => cases found <;> exact (Except.ok.inj hwalk).symm
  | cons part rest ih =>
    rw [List.mem_cons, not_or] at hparts
    rw [walkFrom] at hwalk
    by_cases hdir : fs.isDirectory (start ++ found.reverse)
    case neg => simp [hdir] at hwalk
    simp only [hdir, Bool.not_true, Bool.false_eq_true, if_false] at hwalk
    by_cases hup : part = ".."
    case neg =>
      rw [if_neg hup] at hwalk
      split at hwalk
      next => cases hwalk
      next =>
        rw [Path.simplify.eq_def]
        simp only [ne_eq, hup, not_false_eq_true, if_true]
        refine ih ?_ hparts.2 (by simpa using hwalk)
        simpa using ⟨hparts.1, hfound⟩
    subst hup
    rw [if_pos rfl] at hwalk
    cases found with
    | nil =>
      rw [List.reverse_nil, List.append_nil, hstart] at hwalk
      refine @ih (if isRooted then [] else [".."]) ?_ hparts.2 ?_
      · cases isRooted <;> decide
      · cases isRooted <;> exact hwalk
    | cons last before =>
      rw [List.mem_cons, not_or] at hfound
      rw [List.reverse_cons, ← List.append_assoc, above_append_concat _ (Ne.symm hfound.1)]
        at hwalk
      rw [Path.simplify]
      by_cases hlast : last = ".."
      · rw [if_pos hlast] at hwalk ⊢
        refine ih ?_ hparts.2 (by simpa using hwalk)
        simpa using hfound
      · rw [if_neg hlast] at hwalk ⊢
        exact ih hfound.2 hparts.2 hwalk

theorem place_of_walk {s : String} (hwalk : fs.walk (.ofString s) = .ok place) :
    place = (Path.ofString s).place := by
  rw [walk] at hwalk
  split at hwalk
  next => cases hwalk
  next =>
  split at hwalk
  next => cases hwalk
  next =>
    refine place_of_walkFrom ?_ List.not_mem_nil (Path.slash_not_mem_parts s)
      (by simpa using hwalk)
    by_cases hroot : (Path.ofString s).root = ""
    · simp [hroot, above]
    · simp [hroot, above]

theorem read_eq_ok {file : File} :
    fs.read path = .ok file ↔ ∃ place, fs.walk path = .ok place ∧ fs.file? place = some file := by
  rw [read, Outcome.bind_eq_ok]
  refine exists_congr fun place => and_congr_right fun _ => ?_
  cases fs.file? place with
  | none => simp [throw, throwThe, MonadExceptOf.throw]
  | some f => simp [pure, Except.pure]

theorem write_eq_ok {text : String} :
    fs.write path text = .ok fs' ↔
      ∃ place, fs.walk path = .ok place ∧ ¬fs.isDirectory place ∧
        fs' = fs.store place (.ok text) := by
  rw [write, Outcome.bind_eq_ok]
  refine exists_congr fun place => and_congr_right fun _ => ?_
  cases hdir : fs.isDirectory place with
  | false => simp [pure, Except.pure, eq_comm]
  | true => simp [throw, throwThe, MonadExceptOf.throw, bind, Except.bind]

theorem modified?_eq_some {time : Int} :
    fs.modified? path = some time ↔
      ∃ place file, fs.walk path = .ok place ∧ fs.file? place = some file ∧
        (file.modified : Int) = time := by
  rw [modified?]
  cases fs.walk path with
  | error e => simp [Except.toOption]
  | ok place => simp [Except.toOption]

theorem exists_file_of_modified? {s : String} {time : Int}
    (h : fs.modified? (.ofString s) = some time) :
    ∃ file, fs.file? (Path.ofString s).place = some file ∧ (file.modified : Int) = time := by
  obtain ⟨place, file, hwalk, hfile, htime⟩ := modified?_eq_some.1 h
  obtain rfl := place_of_walk hwalk
  exact ⟨file, hfile, htime⟩

theorem exists?_eq_true :
    fs.exists? path = .ok true ↔
      ∃ place, fs.walk path = .ok place ∧ (place ∈ fs.places ∨ fs.isDirectory place) := by
  rw [exists?]
  cases hwalk : fs.walk path with
  | error e => cases h : e.isAbsence <;> simp [h]
  | ok place => simp [isSome_file?_iff]

theorem Within.exists? (h : Within fs fs') (hexists : fs.exists? path = .ok true) :
    fs'.exists? path = .ok true := by
  obtain ⟨place, hwalk, hplace⟩ := exists?_eq_true.1 hexists
  exact exists?_eq_true.2 ⟨place, h.walk hwalk, hplace.imp (h.places ·) h.isDirectory⟩

structure Prepared (path : Path) (fs fs' : FileSystem) : Prop where
  files : fs'.files = fs.files
  clock : fs'.clock = fs.clock
  directories : fs.directories ⊆ fs'.directories
  isThere : fs'.exists? path = .ok true

namespace Prepared

theorem within (h : Prepared path fs fs') : Within fs fs' :=
  ⟨h.directories, by rw [places, places, h.files]; exact fun _ hp => hp⟩

theorem file? (h : Prepared path fs fs') (place : List String) :
    fs'.file? place = fs.file? place := by
  rw [FileSystem.file?, FileSystem.file?, h.files]

theorem timely (h : Prepared path fs fs') (ht : fs.Timely) : fs'.Timely := by
  intro place file hfile
  rw [h.clock]
  exact ht place file ((h.file? place).symm.trans hfile)

theorem after {fs₀ : FileSystem} {path₀ : Path} (h : Prepared path fs fs')
    (h₀ : Prepared path₀ fs₀ fs) : Prepared path fs₀ fs' where
  files := h.files.trans h₀.files
  clock := h.clock.trans h₀.clock
  directories := fun _ hd => h.directories (h₀.directories hd)
  isThere := h.isThere

theorem makeDirectory (h : fs.makeDirectory path = .ok fs') : Prepared path fs fs' := by
  rw [FileSystem.makeDirectory, Outcome.bind_eq_ok] at h
  obtain ⟨place, hwalk, h⟩ := h
  split at h
  next => cases h
  next =>
    obtain rfl := Except.ok.inj h
    have hwithin : Within fs { fs with directories := place :: fs.directories } :=
      ⟨fun _ hd => List.mem_cons_of_mem _ hd, fun _ hp => hp⟩
    refine ⟨rfl, rfl, hwithin.directories, exists?_eq_true.2 ⟨place, hwithin.walk hwalk, .inr ?_⟩⟩
    exact isDirectory_iff.2 (.inr (.inr (.inl List.mem_cons_self)))

theorem ensureDirectory (h : fs.ensureDirectory path = .ok fs') : Prepared path fs fs' := by
  rw [FileSystem.ensureDirectory] at h
  split at h
  next fs'' hmake => exact Except.ok.inj h ▸ makeDirectory hmake
  next =>
    split at h
    next hthere =>
      obtain rfl := Except.ok.inj h
      refine ⟨rfl, rfl, fun _ hd => hd, exists?_eq_true.2 ?_⟩
      rw [hasDirectory] at hthere
      split at hthere
      next place hwalk => exact ⟨place, hwalk, .inr hthere⟩
      next => cases hthere
    next => cases h

theorem makeDirectories (h : fs.makeDirectories path = .ok fs') : Prepared path fs fs' := by
  induction path using makeDirectories.induct fs generalizing fs' with
  | case1 path shown hensure hparts =>
    rw [FileSystem.makeDirectories, hensure] at h
    simp [hparts] at h
  | case2 path shown hensure hparts ih =>
    rw [FileSystem.makeDirectories, hensure] at h
    simp only [hparts, dite_false, Outcome.bind_eq_ok] at h
    obtain ⟨above, habove, h⟩ := h
    exact (ensureDirectory h).after (ih habove)
  | case3 path hresult =>
    rw [FileSystem.makeDirectories] at h
    split at h
    next shown hensure => exact (hresult shown hensure).elim
    next => exact ensureDirectory h

end Prepared

end FileSystem

end TypedClient
