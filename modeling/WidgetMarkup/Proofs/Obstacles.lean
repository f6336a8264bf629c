/-
  How the creation of directories and the writing of a file end.

  The operations follow paths as texts.  Behind a directory, though, only names matter: whether a
  path is too long, whether a file stands where a directory should be, and whether a directory
  stands where the file should be.

  * `directoryAt_joinAll` says where names behind a directory lead.
  * `createChain_joinAll` says how the creation of directories along names ends: `obstacle?` is
    the error, if there is one.  `write_join` says the same of writing.
-/
import Mathlib.Data.List.Infix
import WidgetMarkup.Proofs.Trails

namespace WidgetMarkup.FileTree

variable {files : FileTree} {loc dir : Location} {path name : String} {names : List String}

/-! ## Equal trees -/

/-- Lists in the order of some names are equal if they have the same members. -/
theorem eq_of_mem_iff {α : Type} {key : α → List String} {l l' : List α}
    (h : l.Pairwise fun x y => key x < key y) (h' : l'.Pairwise fun x y => key x < key y)
    (hmem : ∀ x, x ∈ l ↔ x ∈ l') : l = l' := by
  have hnodup : ∀ {l : List α}, l.Pairwise (fun x y => key x < key y) → l.Nodup := by
    intro l hl
    refine hl.imp ?_
    rintro x y hlt rfl
    exact lt_irrefl _ hlt
  refine List.Perm.eq_of_pairwise ?_ h h'
    ((List.perm_ext_iff_of_nodup (hnodup h) (hnodup h')).2 hmem)
  exact fun x y _ _ hxy hyx => absurd (hxy.trans hyx) (lt_irrefl _)

/-- Well-formed trees with the same entries are equal. -/
theorem WellFormed.ext {files' : FileTree} (hf : files.WellFormed) (hf' : files'.WellFormed)
    (hcurrent : files.current = files'.current) (h : ∀ loc, files.get? loc = files'.get? loc) :
    files = files' := by
  have hentries : files.entries = files'.entries := by
    refine eq_of_mem_iff hf.sorted hf'.sorted ?_
    rintro ⟨loc, e⟩
    rw [hf.mem_entries_iff, hf'.mem_entries_iff, h]
  cases files
  cases files'
  simp_all

/-! ## The directory that a path leads to -/

/-- A location, if there is a directory. -/
def enter (files : FileTree) (loc : Location) : Except FileError Location :=
  match files.get? loc with
  | none => .error .notFound
  | some (.file _) => .error .notDirectory
  | some .directory => .ok loc

/-- The location of the directory that a path leads to. -/
def directoryAt (files : FileTree) (path : String) : Except FileError Location :=
  (files.locate path).bind files.enter

theorem enter_eq_ok_iff : files.enter loc = .ok dir ↔
    files.get? loc = some .directory ∧ dir = loc := by
  rw [enter]
  split
  · next h => simp [h]
  · next h => simp [h]
  · next h => simp [h, eq_comm]

theorem directoryAt_eq_ok_iff : files.directoryAt path = .ok loc ↔
    files.locate path = .ok loc ∧ files.get? loc = some .directory := by
  rw [directoryAt, bind_eq_ok_iff]
  constructor
  · rintro ⟨mid, hlocate, henter⟩
    obtain ⟨hget, rfl⟩ := enter_eq_ok_iff.1 henter
    exact ⟨hlocate, hget⟩
  · rintro ⟨hlocate, hget⟩
    exact ⟨loc, hlocate, enter_eq_ok_iff.2 ⟨hget, rfl⟩⟩

theorem follow_blank (files : FileTree) (loc : Location) :
    files.follow loc [""] = files.enter loc := by
  rw [follow, enter]
  cases files.get? loc with
  | none => rfl
  | some e => cases e <;> rfl

theorem follow_name (files : FileTree) (loc : Location) (hname : IsName name) :
    files.follow loc [name] = (files.enter loc).map (· ++ [name]) := by
  rw [follow, enter]
  cases files.get? loc with
  | none => rfl
  | some e =>
    cases e with
    | file content => rfl
    | directory =>
      dsimp only
      rw [if_neg (by simp [hname.ne_empty, hname.ne_here]), if_neg (by simp [hname.ne_up]),
        if_neg (Nat.not_lt.2 hname.short)]
      rfl

theorem bind_enter_enter (files : FileTree) (x : Except FileError Location) :
    (x.bind files.enter).bind files.enter = x.bind files.enter := by
  cases x with
  | error e => rfl
  | ok loc =>
    change (files.enter loc).bind files.enter = files.enter loc
    cases h : files.enter loc with
    | error e => rfl
    | ok dir =>
      obtain ⟨hget, rfl⟩ := enter_eq_ok_iff.1 h
      exact h

/-- The parts before the last one lead to the directory of the path in front of it. -/
theorem follow_dropLast_join (hf : files.WellFormed) (path : String) {part : String}
    (hne : part ≠ "") (hslash : '/' ∉ part.toList) :
    (files.follow (files.startOf (Path.join path part))
      (Path.parts (Path.join path part)).dropLast).bind files.enter = files.directoryAt path := by
  rw [startOf_join_part path hne hslash, directoryAt]
  rcases Path.join_cases path part with ⟨rfl, -⟩ | ⟨q, rfl, -⟩ | ⟨-, hj⟩
  · rw [Path.parts_join_empty hslash, locate_empty hf]
    rfl
  · have hparts : Path.parts (q ++ "/") = Path.parts q ++ [""] := by
      have hparts := Path.parts_append q ""
      rwa [String.append_empty] at hparts
    rw [Path.parts_join_slash q hslash, List.dropLast_concat, locate, hparts, follow_append]
    simp only [follow_blank]
    exact (bind_enter_enter files _).symm
  · rw [hj, Path.parts_append, Path.parts_of_notMem hslash, List.dropLast_concat, locate]

theorem locate_join (hf : files.WellFormed) (path : String) (hname : IsName name) :
    files.locate (Path.join path name) = (files.directoryAt path).map (· ++ [name]) := by
  obtain ⟨ps, hps⟩ := Path.exists_parts_join path hname.no_slash
  have hdir := follow_dropLast_join hf path hname.ne_empty hname.no_slash
  rw [hps, List.dropLast_concat] at hdir
  rw [locate, hps, follow_append, ← hdir]
  cases files.follow (files.startOf (Path.join path name)) ps with
  | error e => rfl
  | ok loc => exact follow_name files loc hname

theorem directoryAt_join (hf : files.WellFormed) (path : String) (hname : IsName name) :
    files.directoryAt (Path.join path name) =
      (files.directoryAt path).bind fun dir => files.enter (dir ++ [name]) := by
  rw [directoryAt, locate_join hf path hname]
  cases files.directoryAt path <;> rfl

theorem findParent_join (hf : files.WellFormed) (path : String) {part : String} (hne : part ≠ "")
    (hslash : '/' ∉ part.toList) (hpath : pathError? (Path.join path part) = none) :
    files.findParent (Path.join path part) =
      (files.directoryAt path).bind fun dir =>
        if maxNameBytes < part.utf8ByteSize then .error .nameTooLong else .ok (dir, part) := by
  obtain ⟨ps, hps⟩ := Path.exists_parts_join path hslash
  have hentry : partsToEntry (Path.join path part) = ps ++ [part] := by
    rw [partsToEntry, hps, List.reverse_concat,
      List.dropWhile_cons_of_neg (by simpa using hne), ← List.reverse_concat, List.reverse_reverse]
  have hdir := follow_dropLast_join hf path hne hslash
  rw [hps, List.dropLast_concat] at hdir
  rw [findParent, hpath, hentry, List.getLast?_concat, List.dropLast_concat, ← hdir]
  dsimp only
  cases files.follow (files.startOf (Path.join path part)) ps with
  | error e => rfl
  | ok loc =>
    rw [show (Except.ok loc).bind files.enter = files.enter loc from rfl, enter]
    dsimp only
    cases files.get? loc with
    | none => rfl
    | some e => cases e <;> rfl

/-! ## Files where directories should be -/

/-- Whether there is a file at a location or on the way from there along names. -/
def isBlocked (files : FileTree) (loc : Location) (names : List String) : Bool :=
  names.inits.any fun ps => (files.get? (loc ++ ps)).any (!·.isDirectory)

/-- The error of creating directories along names, if there is one. -/
def obstacle? (files : FileTree) (loc : Location) (names : List String) : Option FileError :=
  if files.isBlocked loc names then
    some (if (files.get? (loc ++ names)).isSome then .alreadyExists else .notDirectory)
  else none

theorem isBlocked_iff : files.isBlocked loc names ↔
    ∃ ps content, ps <+: names ∧ files.get? (loc ++ ps) = some (.file content) := by
  simp only [isBlocked, List.any_eq_true, List.mem_inits, Option.any_eq_true]
  constructor
  · rintro ⟨ps, hps, e, he, hnot⟩
    cases e with
    | directory => cases hnot
    | file content => exact ⟨ps, content, hps, he⟩
  · rintro ⟨ps, content, hps, hfile⟩
    exact ⟨ps, hps, _, hfile, rfl⟩

theorem isBlocked_mono {more : List String} (h : files.isBlocked loc names)
    (hnames : names <+: more) : files.isBlocked loc more := by
  obtain ⟨ps, content, hps, hfile⟩ := isBlocked_iff.1 h
  exact isBlocked_iff.2 ⟨ps, content, hps.trans hnames, hfile⟩

/-- If nothing blocks the way to the last name, only a file at that name does. -/
theorem isBlocked_concat_iff (h : ¬ files.isBlocked loc names) (name : String) :
    files.isBlocked loc (names ++ [name]) ↔
      ∃ content, files.get? (loc ++ names ++ [name]) = some (.file content) := by
  rw [List.append_assoc]
  constructor
  · intro hblocked
    obtain ⟨ps, content, hps, hfile⟩ := isBlocked_iff.1 hblocked
    rcases List.prefix_concat_iff.1 hps with rfl | hps
    · exact ⟨content, hfile⟩
    · exact absurd (isBlocked_iff.2 ⟨ps, content, hps, hfile⟩) h
  · rintro ⟨content, hfile⟩
    exact isBlocked_iff.2 ⟨_, content, List.prefix_refl _, hfile⟩

/-- Nothing is behind a file. -/
theorem WellFormed.get?_of_isBlocked (hf : files.WellFormed) (h : files.isBlocked loc names)
    {more : List String} (hmore : names <+: more) (hne : more ≠ names) :
    files.get? (loc ++ more) = none := by
  obtain ⟨ps, content, ⟨xs, rfl⟩, hfile⟩ := isBlocked_iff.1 h
  obtain ⟨ys, rfl⟩ := hmore
  by_contra hsome
  obtain ⟨e, he⟩ := Option.ne_none_iff_exists'.1 hsome
  rw [List.append_assoc, ← List.append_assoc] at he
  have hnil := hf.eq_nil_of_file hfile he
  rw [List.append_eq_nil_iff] at hnil
  exact hne (by rw [hnil.2, List.append_nil])

/-- What stands in the way among some files does so wherever there are files in the same
    places. -/
theorem WellFormed.obstacle?_eq {files' : FileTree} (hf : files.WellFormed)
    (hf' : files'.WellFormed)
    (hfiles : ∀ ps content, ps <+: names → files.get? (loc ++ ps) = some (.file content) →
      ∃ content', files'.get? (loc ++ ps) = some (.file content'))
    {e : FileError} (hobstacle : files.obstacle? loc names = some e) :
    files'.obstacle? loc names = some e := by
  have hblocked : files.isBlocked loc names := by
    by_contra hclear
    rw [obstacle?, if_neg hclear] at hobstacle
    cases hobstacle
  rw [obstacle?, if_pos hblocked] at hobstacle
  obtain ⟨ps, content, hps, hfile⟩ := isBlocked_iff.1 hblocked
  obtain ⟨content', hfile'⟩ := hfiles ps content hps hfile
  have hblocked' : files'.isBlocked loc names := isBlocked_iff.2 ⟨ps, content', hps, hfile'⟩
  rw [obstacle?, if_pos hblocked', ← hobstacle]
  by_cases heq : names = ps
  · rw [heq, hfile, hfile']
    rfl
  · have hself := List.prefix_refl ps
    rw [hf.get?_of_isBlocked (isBlocked_iff.2 ⟨ps, content, hself, hfile⟩) hps heq,
      hf'.get?_of_isBlocked (isBlocked_iff.2 ⟨ps, content', hself, hfile'⟩) hps heq]

/-- Directories do not block the way. -/
theorem obstacle?_eq_none
    (h : ∀ ps, ps <+: names → files.get? (loc ++ ps) = some .directory) :
    files.obstacle? loc names = none := by
  refine if_neg fun hblocked => ?_
  obtain ⟨ps, content, hps, hfile⟩ := isBlocked_iff.1 hblocked
  rw [h ps hps] at hfile
  cases hfile

theorem WellFormed.get?_concat_eq_none (hf : files.WellFormed)
    (h : files.get? loc ≠ some .directory) (name : String) : files.get? (loc ++ [name]) = none := by
  by_contra hsome
  obtain ⟨e, he⟩ := Option.ne_none_iff_exists'.1 hsome
  exact h (hf.get?_around (List.cons_ne_nil _ _) he)

/-- Names behind a directory lead to a directory, unless a file or nothing is there. -/
theorem directoryAt_joinAll (hf : files.WellFormed) {output : String}
    (hout : files.directoryAt output = .ok loc) (hnames : ∀ name ∈ names, IsName name) :
    files.directoryAt (Path.joinAll output names) =
      if files.isBlocked loc names then .error .notDirectory else files.enter (loc ++ names) := by
  have hdir := (directoryAt_eq_ok_iff.1 hout).2
  induction names using List.reverseRecOn with
  | nil =>
    have hclear : ¬ files.isBlocked loc [] := by simp [isBlocked, hdir, Entry.isDirectory]
    rw [if_neg hclear, List.append_nil, enter_eq_ok_iff.2 ⟨hdir, rfl⟩]
    exact hout
  | append_singleton names name ih =>
    rw [Path.joinAll_concat, directoryAt_join hf _ (hnames name (by simp)),
      ih fun n hn => hnames n (List.mem_append_left _ hn)]
    by_cases hblocked : files.isBlocked loc names
    · rw [if_pos hblocked, if_pos (isBlocked_mono hblocked (List.prefix_append _ _))]
      rfl
    rw [if_neg hblocked]
    by_cases hget : files.get? (loc ++ names) = some .directory
    · rw [enter_eq_ok_iff.2 ⟨hget, rfl⟩]
      change files.enter (loc ++ names ++ [name]) = _
      split_ifs with hfile
      · obtain ⟨content, hfile⟩ := (isBlocked_concat_iff hblocked name).1 hfile
        rw [enter, hfile]
      · rw [List.append_assoc]
    · have hnone : files.get? (loc ++ names) = none := by
        cases h : files.get? (loc ++ names) with
        | none => rfl
        | some e =>
          cases e with
          | directory => exact absurd h hget
          | file content =>
            exact absurd (isBlocked_iff.2 ⟨names, content, List.prefix_refl _, h⟩) hblocked
      have hbehind := hf.get?_concat_eq_none hget name
      have hclear : ¬ files.isBlocked loc (names ++ [name]) := by
        rw [isBlocked_concat_iff hblocked name, hbehind]
        simp
      rw [if_neg hclear, enter, hnone, ← List.append_assoc, enter, hbehind]
      rfl

/-! ## Creating directories -/

theorem makeDirectory_of_pathError? {e : FileError} (h : pathError? path = some e) :
    files.makeDirectory path = .error e := by
  rw [makeDirectory, findParent, h]

theorem hasDirectory_eq (h : pathError? path = none) :
    files.hasDirectory path = (files.directoryAt path).isOk := by
  rw [Bool.eq_iff_iff, hasDirectory_iff]
  constructor
  · rintro ⟨-, loc, hloc⟩
    rw [directoryAt_eq_ok_iff.2 hloc]
    rfl
  · intro hok
    cases hdir : files.directoryAt path with
    | error e =>
      rw [hdir] at hok
      cases hok
    | ok loc => exact ⟨h, loc, directoryAt_eq_ok_iff.1 hdir⟩

/-- A name behind a path that leads to no directory. -/
theorem ensureDirectory_join_of_error (hf : files.WellFormed) (hname : IsName name)
    (hpath : pathError? (Path.join path name) = none) {e : FileError}
    (hdir : files.directoryAt path = .error e) :
    files.ensureDirectory (Path.join path name) = (files, .error e) := by
  have hmake : files.makeDirectory (Path.join path name) = .error e := by
    rw [makeDirectory, findParent_join hf path hname.ne_empty hname.no_slash hpath, hdir]
    rfl
  have hnone : files.hasDirectory (Path.join path name) = false := by
    rw [hasDirectory_eq hpath, directoryAt_join hf path hname, hdir]
    rfl
  rw [ensureDirectory, hmake]
  dsimp only
  rw [hnone, if_neg (by simp)]

/-- A name in a directory. -/
theorem ensureDirectory_join_of_ok (hf : files.WellFormed) (hname : IsName name)
    (hpath : pathError? (Path.join path name) = none) (hdir : files.directoryAt path = .ok dir) :
    files.ensureDirectory (Path.join path name) =
      match files.get? (dir ++ [name]) with
      | none => (files.put (dir ++ [name]) .directory, .ok ())
      | some .directory => (files, .ok ())
      | some (.file _) => (files, .error .alreadyExists) := by
  have hparent : files.findParent (Path.join path name) = .ok (dir, name) := by
    rw [findParent_join hf path hname.ne_empty hname.no_slash hpath, hdir]
    exact if_neg (Nat.not_lt.2 hname.short)
  have hhas : files.hasDirectory (Path.join path name) = (files.enter (dir ++ [name])).isOk := by
    rw [hasDirectory_eq hpath, directoryAt_join hf path hname, hdir]
    rfl
  rw [ensureDirectory, makeDirectory, hparent]
  dsimp only
  rw [enter] at hhas
  cases hget : files.get? (dir ++ [name]) with
  | none => simp [hname.ne_here, hname.ne_up]
  | some e =>
    rw [hget] at hhas
    cases e with
    | directory =>
      simp only [Option.isSome_some, Bool.or_true, if_true, hhas]
      rfl
    | file content =>
      simp only [Option.isSome_some, Bool.or_true, if_true, hhas]
      rfl

/-- A path that cannot be looked up stops the creation at once. -/
theorem createChain_of_pathError? (hne : path ≠ "") {e : FileError}
    (h : pathError? path = some e) (around : List String) :
    files.createChain (path :: around) = (files, .error e) := by
  have hnone : files.hasDirectory path = false := by
    rw [Bool.eq_false_iff, Ne, hasDirectory_iff, h]
    simp
  have hensure : files.ensureDirectory path = (files, .error e) := by
    rw [ensureDirectory, makeDirectory_of_pathError? h]
    dsimp only
    rw [hnone, if_neg (by simp)]
  rw [createChain_cons_of_ne fun hc => hne (eq_empty_of_components hc), hensure]
  have hfound : e ≠ .notFound := by
    rintro rfl
    exact pathError?_ne_notFound hne h
  cases e <;> first | rfl | exact absurd rfl hfound

/-- An output directory that could be created has a path that can be looked up. -/
theorem isOpen_of_createAll {output : String}
    (h : (files.createAll output).2 = .ok ()) : output = "" ∨ pathError? output = none := by
  by_contra hnot
  rw [not_or] at hnot
  obtain ⟨e, he⟩ := Option.ne_none_iff_exists'.1 hnot.2
  rw [createAll, createChain_of_pathError? hnot.1 he] at h
  cases h

/-- A directory that is there need not be created. -/
theorem createChain_of_directoryAt (hpath : path = "" ∨ pathError? path = none)
    (hdir : files.directoryAt path = .ok loc) (around : List String) :
    files.createChain (path :: around) = (files, .ok ()) := by
  have hleads : files.LeadsToDirectory path := ⟨loc, directoryAt_eq_ok_iff.1 hdir⟩
  have hsame := createChain_of_leadsToDirectory hleads around
  rcases hpath with rfl | hpath
  · exact createChain_cons_of_eq rfl
  have hne : path ≠ "" := by
    rintro rfl
    cases hpath
  have hensure : (files.ensureDirectory path).2 = .ok () := by
    rw [ensureDirectory]
    cases files.makeDirectory path with
    | ok made => rfl
    | error e =>
      dsimp only
      rw [hasDirectory_eq hpath, hdir]
      rfl
  rcases createChain_cases files around fun hc => hne (eq_empty_of_components hc) with
    heq | ⟨hfail, -⟩
  · exact Prod.ext hsame (heq ▸ hensure)
  · rw [hensure] at hfail
    cases hfail

/-- What is trimmed off stands at the end of a path, and not all of it is trimmed off. -/
theorem trimEndBackwards_suffix (cs : List Char) :
    Path.trimEndBackwards cs <:+ cs ∧ (Path.trimEndBackwards cs = [] → cs = []) := by
  fun_induction Path.trimEndBackwards cs with
  | case1 cs hempty =>
    obtain rfl := List.isEmpty_iff.1 hempty
    exact ⟨List.suffix_refl _, fun h => absurd h (List.cons_ne_nil _ _)⟩
  | case2 cs hnonempty ih =>
    refine ⟨ih.1.trans (List.suffix_cons _ _), fun h => ?_⟩
    exact absurd (List.isEmpty_iff.2 (ih.2 h)) hnonempty
  | case3 cs hempty =>
    obtain rfl := List.isEmpty_iff.1 hempty
    exact ⟨List.suffix_cons _ _, fun h => absurd h (List.cons_ne_nil _ _)⟩
  | case4 cs hnonempty ih =>
    refine ⟨ih.1.trans ((List.suffix_cons _ _).trans (List.suffix_cons _ _)), fun h => ?_⟩
    exact absurd (List.isEmpty_iff.2 (ih.2 h)) hnonempty
  | case5 cs => exact ⟨List.suffix_refl _, id⟩

theorem pathError?_of_append {rest : String} (hne : path ≠ "")
    (h : pathError? (path ++ rest) = none) : pathError? path = none := by
  obtain ⟨hnul, -, hsize⟩ := pathError?_eq_none_iff.1 h
  rw [String.toList_append, List.mem_append, not_or] at hnul
  rw [String.utf8ByteSize_append] at hsize
  exact pathError?_eq_none_iff.2 ⟨hnul.1, hne, by omega⟩

theorem pathError?_trimEnd (h : path = "" ∨ pathError? path = none) :
    Path.trimEnd path = "" ∨ pathError? (Path.trimEnd path) = none := by
  by_cases hempty : Path.trimEnd path = ""
  · exact .inl hempty
  obtain ⟨⟨rest, hrest⟩, -⟩ := trimEndBackwards_suffix path.toList.reverse
  have hpath : path = Path.trimEnd path ++ String.ofList rest.reverse := by
    rw [← String.toList_inj, String.toList_append, Path.trimEnd, String.toList_ofList,
      String.toList_ofList, ← List.reverse_append, hrest, List.reverse_reverse]
  have hpath' : pathError? path = none := by
    refine h.resolve_left ?_
    rintro rfl
    exact hempty rfl
  rw [hpath] at hpath'
  exact .inr (pathError?_of_append hempty hpath')

theorem pathError?_of_join (hne : path ≠ "") (h : pathError? (Path.join path name) = none) :
    pathError? path = none := by
  rcases Path.join_cases path name with ⟨rfl, -⟩ | ⟨q, rfl, hj⟩ | ⟨-, hj⟩
  · exact absurd rfl hne
  · rw [hj] at h
    exact pathError?_of_append hne h
  · rw [hj, String.append_assoc] at h
    exact pathError?_of_append hne h

theorem trimEnd_joinAll (output : String) (hnames : ∀ name ∈ names, IsName name)
    (hne : names ≠ []) :
    Path.trimEnd (Path.joinAll output names) = Path.joinAll output names := by
  obtain ⟨init, name, rfl⟩ := (List.eq_nil_or_concat' names).resolve_left hne
  rw [Path.joinAll_concat, Path.trimEnd_join _ (hnames name (by simp))]

theorem joinAll_ne_empty {output : String} (hnames : ∀ name ∈ names, IsName name)
    (hne : names ≠ []) : Path.joinAll output names ≠ "" := by
  obtain ⟨init, name, rfl⟩ := (List.eq_nil_or_concat' names).resolve_left hne
  rw [Path.joinAll_concat]
  exact Path.join_ne_empty _ (hnames name (by simp)).ne_empty

/-- Names that lead to a directory name it. -/
theorem get?_of_leadsToDirectory (hf : files.WellFormed) {output : String}
    (hout : files.locate output = .ok loc) (hnames : ∀ name ∈ names, IsName name)
    (h : files.LeadsToDirectory (Path.trimEnd (Path.joinAll output names))) :
    files.get? (loc ++ names) = some .directory := by
  obtain ⟨dir, hlocate, hdir⟩ := h
  by_cases hnil : names = []
  · rw [hnil, show Path.joinAll output [] = output from rfl, locate_trimEnd hout,
      Except.ok.injEq] at hlocate
    rwa [hnil, List.append_nil, hlocate]
  · rw [trimEnd_joinAll output hnames hnil] at hlocate
    rw [← eq_of_locate_joinAll hf hout hnames hlocate, hdir]

/-- If the directory before the last name is missing, it is created first, and then nothing is
    there to stop the creation of the last one. -/
theorem createChain_join_of_missing (hf : files.WellFormed) {output : String}
    (hout : files.directoryAt output = .ok loc) (hnames : ∀ name ∈ names, IsName name)
    (hname : IsName name)
    (hpath : pathError? (Path.join (Path.joinAll output names) name) = none)
    (hmissing : files.directoryAt (Path.joinAll output names) = .error .notFound)
    (hlast : files.get? (loc ++ names ++ [name]) = none) {n : Nat}
    (hcreate : (files.createChain (Path.trimEnd (Path.joinAll output names) ::
      Path.parents n (Path.trimEnd (Path.joinAll output names)))).2 = .ok ()) :
    (files.createChain (Path.join (Path.joinAll output names) name ::
      Path.parents (n + 1) (Path.join (Path.joinAll output names) name))).2 = .ok () := by
  obtain ⟨hlocate, hdir⟩ := directoryAt_eq_ok_iff.1 hout
  have hcomponents : Path.components (Path.join (Path.joinAll output names) name) ≠ [] := by
    rw [Path.components_join _ hname]
    simp
  have hadds := addsDirectories_createChain_joinAll hf hlocate hdir hnames n
  have hleads := leadsToDirectory_createChain hf hcreate
  rw [createChain_cons_of_ne hcomponents, ensureDirectory_join_of_error hf hname hpath hmissing,
    Path.parents, Path.parent?_join _ hname.no_slash (Path.component?_of_isName hname)]
  dsimp only
  generalize files.createChain (Path.trimEnd (Path.joinAll output names) ::
    Path.parents n (Path.trimEnd (Path.joinAll output names))) = result at *
  obtain ⟨made, created⟩ := result
  obtain rfl : created = .ok () := hcreate
  dsimp only at hadds hleads ⊢
  have hbefore :=
    get?_of_leadsToDirectory hadds.wellFormed (hadds.grows.locate hlocate) hnames hleads
  have hat : made.directoryAt (Path.joinAll output names) = .ok (loc ++ names) :=
    directoryAt_eq_ok_iff.2
      ⟨locate_joinAll hadds.wellFormed (hadds.grows.locate hlocate) hbefore, hbefore⟩
  have hnone : made.get? (loc ++ names ++ [name]) = none := by
    rcases hadds.get? (loc ++ names ++ [name]) with heq | ⟨-, -, ps, hps, heq⟩
    · rw [heq, hlast]
    · rw [List.append_assoc, List.append_cancel_left_eq] at heq
      have hlength := hps.length_le
      simp [← heq] at hlength
  rw [ensureDirectory_join_of_ok hadds.wellFormed hname hpath hat, hnone]

/-- **How the creation of directories along names ends.**  If the path is not too long, only a
    file where a directory should be stops it, and then nothing is created at all. -/
theorem createChain_joinAll (hf : files.WellFormed) {output : String}
    (hopen : output = "" ∨ pathError? output = none) (hout : files.directoryAt output = .ok loc)
    (hnames : ∀ name ∈ names, IsName name)
    (hshort : names ≠ [] → pathError? (Path.joinAll output names) = none) {n : Nat}
    (hn : names.length ≤ n) :
    match files.obstacle? loc names with
    | some e =>
      files.createChain (Path.trimEnd (Path.joinAll output names) ::
        Path.parents n (Path.trimEnd (Path.joinAll output names))) = (files, .error e)
    | none =>
      (files.createChain (Path.trimEnd (Path.joinAll output names) ::
        Path.parents n (Path.trimEnd (Path.joinAll output names)))).2 = .ok () := by
  obtain ⟨hlocate, hdir⟩ := directoryAt_eq_ok_iff.1 hout
  -- by the last name: what is before it is created first if it is missing
  induction names using List.reverseRecOn generalizing n with
  | nil =>
    have hclear : ¬ files.isBlocked loc [] := by simp [isBlocked, hdir, Entry.isDirectory]
    rw [obstacle?, if_neg hclear, show Path.joinAll output [] = output from rfl,
      createChain_of_directoryAt (pathError?_trimEnd hopen)
        (directoryAt_eq_ok_iff.2 ⟨locate_trimEnd hlocate, hdir⟩)]
  | append_singleton names name ih =>
    have hname : IsName name := hnames name (by simp)
    have hmore : ∀ name ∈ names, IsName name := fun n hn => hnames n (List.mem_append_left _ hn)
    have hpath := hshort (by simp)
    rw [Path.joinAll_concat] at hpath ⊢
    rw [Path.trimEnd_join _ hname, obstacle?, ← List.append_assoc]
    have hcomponents : Path.components (Path.join (Path.joinAll output names) name) ≠ [] := by
      rw [Path.components_join _ hname]
      simp
    have hat := directoryAt_joinAll hf hout hmore
    by_cases hblocked : files.isBlocked loc names
    · rw [if_pos hblocked] at hat
      rw [if_pos (isBlocked_mono hblocked (List.prefix_append _ _)), List.append_assoc,
        hf.get?_of_isBlocked hblocked (List.prefix_append _ _) (by simp),
        createChain_cons_of_ne hcomponents, ensureDirectory_join_of_error hf hname hpath hat]
      rfl
    rw [if_neg hblocked] at hat
    have hconcat := isBlocked_concat_iff hblocked name
    cases hget : files.get? (loc ++ names) with
    | some e =>
      cases e with
      | file content =>
        exact absurd (isBlocked_iff.2 ⟨names, content, List.prefix_refl _, hget⟩) hblocked
      | directory =>
        rw [enter_eq_ok_iff.2 ⟨hget, rfl⟩] at hat
        rw [createChain_cons_of_ne hcomponents, ensureDirectory_join_of_ok hf hname hpath hat]
        cases hlast : files.get? (loc ++ names ++ [name]) with
        | none => rw [if_neg (by rw [hconcat, hlast]; simp)]
        | some e =>
          cases e with
          | directory => rw [if_neg (by rw [hconcat, hlast]; simp)]
          | file content =>
            rw [if_pos (hconcat.2 ⟨content, hlast⟩)]
            rfl
    | none =>
      have hlast : files.get? (loc ++ names ++ [name]) = none :=
        hf.get?_concat_eq_none (by simp [hget]) name
      have hnonempty : names ≠ [] := by
        rintro rfl
        rw [List.append_nil, hdir] at hget
        cases hget
      rw [enter, hget] at hat
      rw [if_neg (by rw [hconcat, hlast]; simp)]
      obtain ⟨m, rfl⟩ : ∃ m, n = m + 1 := ⟨n - 1, by simp at hn; omega⟩
      have haround := ih hmore
        (fun _ => pathError?_of_join (joinAll_ne_empty hmore hnonempty) hpath)
        (n := m) (by simpa using hn)
      rw [obstacle?, if_neg hblocked] at haround
      exact createChain_join_of_missing hf hout hmore hname hpath hat hlast haround

/-! ## Writing -/

theorem write_of_pathError? {e : FileError} (h : pathError? path = some e) (content : ByteArray) :
    files.write path content = .error e := by
  rw [write, findParent, h]

/-- Nothing is written where `..` leads. -/
theorem write_join_up (hf : files.WellFormed) (hpath : pathError? (Path.join path "..") = none)
    (hdir : files.directoryAt path = .ok dir) (content : ByteArray) :
    files.write (Path.join path "..") content = .error .isDirectory := by
  rw [write, findParent_join hf path (by decide) (by decide) hpath, hdir]
  rfl

/-- A name in a directory takes a file, unless it is that of a directory. -/
theorem write_join (hf : files.WellFormed) (hname : IsName name)
    (hpath : pathError? (Path.join path name) = none) (hdir : files.directoryAt path = .ok dir)
    (content : ByteArray) :
    files.write (Path.join path name) content =
      if (files.get? (dir ++ [name])).any Entry.isDirectory then .error .isDirectory
      else .ok (files.put (dir ++ [name]) (.file content)) := by
  have hparent : files.findParent (Path.join path name) = .ok (dir, name) := by
    rw [findParent_join hf path hname.ne_empty hname.no_slash hpath, hdir]
    exact if_neg (Nat.not_lt.2 hname.short)
  have hlast : (Path.join path name).toList.getLast? ≠ some '/' := by
    obtain ⟨gap, hlist, -⟩ := Path.join_toList path name
    rw [hlist, List.getLast?_append_of_ne_nil _ hname.toList_ne_nil]
    exact fun h => hname.no_slash (List.mem_of_getLast? h)
  rw [write, hparent]
  dsimp only
  rw [if_neg (by simp [hname.ne_here, hname.ne_up, hlast])]
  cases files.get? (dir ++ [name]) with
  | none => rfl
  | some e => cases e <;> rfl

end WidgetMarkup.FileTree
