/-
  What file operations change.

  * Creating directories adds directories where nothing was, and changes nothing else
    (`AddsDirectories`); where they are added is part of the relation.  The directories
    around a result are added on the way from the output directory to it
    (`addsDirectories_createAll_joinAll`).
  * Writing puts one file at the location that the path leads to (`write_eq_ok`).
-/
import WidgetMarkup.Proofs.FileTree

namespace WidgetMarkup.FileTree

variable {files files' : FileTree} {loc dir : Location} {name path : String} {e : Entry}

/-! ## Added directories -/

/-- Directories are added at locations of a kind where nothing was; all else stays. -/
structure AddsDirectories (kind : Location → Prop) (files files' : FileTree) : Prop where
  wellFormed : files'.WellFormed
  current : files'.current = files.current
  get? : ∀ loc, files'.get? loc = files.get? loc ∨
    files.get? loc = none ∧ files'.get? loc = some .directory ∧ kind loc

section
variable {kind kind' : Location → Prop} {files'' : FileTree}

theorem AddsDirectories.refl (hf : files.WellFormed) (kind : Location → Prop) :
    AddsDirectories kind files files :=
  ⟨hf, rfl, fun _ => .inl rfl⟩

theorem AddsDirectories.mono (h : AddsDirectories kind files files')
    (hkind : ∀ loc, kind loc → kind' loc) : AddsDirectories kind' files files' :=
  ⟨h.wellFormed, h.current,
    fun loc => (h.get? loc).imp_right fun ⟨hnone, hdir, hloc⟩ => ⟨hnone, hdir, hkind loc hloc⟩⟩

theorem AddsDirectories.trans (h : AddsDirectories kind files files')
    (h' : AddsDirectories kind files' files'') : AddsDirectories kind files files'' := by
  refine ⟨h'.wellFormed, h'.current.trans h.current, fun loc => ?_⟩
  rcases h'.get? loc with heq | ⟨hnone, hdir, hloc⟩
  · rw [heq]
    exact h.get? loc
  · rcases h.get? loc with heq | ⟨-, hsome, -⟩
    · exact .inr ⟨heq ▸ hnone, hdir, hloc⟩
    · rw [hsome] at hnone
      cases hnone

theorem AddsDirectories.get?_of_some (h : AddsDirectories kind files files')
    (hloc : files.get? loc = some e) : files'.get? loc = some e := by
  rcases h.get? loc with heq | ⟨hnone, -⟩
  · rwa [heq]
  · rw [hloc] at hnone
    cases hnone

theorem AddsDirectories.get?_of_file (h : AddsDirectories kind files files')
    {content : ByteArray} (hloc : files'.get? loc = some (.file content)) :
    files.get? loc = some (.file content) := by
  rcases h.get? loc with heq | ⟨-, hdir, -⟩
  · rwa [← heq]
  · rw [hloc] at hdir
    cases hdir

theorem AddsDirectories.grows (h : AddsDirectories kind files files') : files.Grows files' :=
  ⟨h.current, fun _ => h.get?_of_some, fun _ content hloc => ⟨content, h.get?_of_some hloc⟩⟩

theorem addsDirectories_put (hf : files.WellFormed) (hdir : files.get? dir = some .directory)
    (hname : IsName name) (hnone : files.get? (dir ++ [name]) = none)
    (hkind : kind (dir ++ [name])) :
    AddsDirectories kind files (files.put (dir ++ [name]) .directory) := by
  refine ⟨hf.put hdir hname (by simp [hnone]) _, rfl, fun loc => ?_⟩
  rw [get?_put files (by simp)]
  by_cases h : loc = dir ++ [name]
  · subst h
    exact .inr ⟨hnone, by simp, hkind⟩
  · exact .inl (if_neg h)

end

/-- A file may be put where no directory is. -/
theorem grows_put (hne : loc ≠ []) (h : files.get? loc ≠ some .directory) (content : ByteArray) :
    files.Grows (files.put loc (.file content)) := by
  refine ⟨rfl, fun loc' hdir => ?_, fun loc' content' hfile => ?_⟩
  · rw [get?_put files hne, if_neg, hdir]
    rintro rfl
    exact h hdir
  · rw [get?_put files hne]
    split_ifs
    · exact ⟨content, rfl⟩
    · exact ⟨content', hfile⟩

/-! ## The entry that a path names -/

theorem notMem_nul_of_pathError? (h : pathError? path = none) : '\x00' ∉ path.toList := by
  intro hmem
  simp [pathError?, hmem] at h

theorem ne_empty_of_pathError? (h : pathError? path = none) : path ≠ "" := by
  rintro rfl
  cases h

theorem size_le_of_pathError? (h : pathError? path = none) :
    path.utf8ByteSize ≤ maxPathBytes := by
  rw [pathError?] at h
  split_ifs at h
  omega

theorem pathError?_ne_notFound (h : path ≠ "") : pathError? path ≠ some .notFound := by
  rw [pathError?, if_neg (fun hempty => h (String.isEmpty_iff.1 hempty))]
  split_ifs <;> simp

/-- The parts of a path are those to its entry and empty ones. -/
theorem exists_parts_eq (path : String) :
    ∃ n, Path.parts path = partsToEntry path ++ List.replicate n "" := by
  have hsplit := List.takeWhile_append_dropWhile (p := String.isEmpty)
    (l := (Path.parts path).reverse)
  have hblank : ∀ part ∈ (Path.parts path).reverse.takeWhile String.isEmpty, part = "" := by
    intro part hpart
    have hall := List.all_eq_true.1 (List.all_takeWhile (p := String.isEmpty)) part hpart
    exact String.isEmpty_iff.1 hall
  refine ⟨((Path.parts path).reverse.takeWhile String.isEmpty).length, ?_⟩
  rw [← List.reverse_inj, List.reverse_append, List.reverse_replicate,
    ← List.eq_replicate_of_mem hblank, partsToEntry, List.reverse_reverse]
  exact hsplit.symm

theorem ne_empty_of_getLast?_partsToEntry (h : (partsToEntry path).getLast? = some name) :
    name ≠ "" := by
  rintro rfl
  have hhead := List.head?_dropWhile_not String.isEmpty (Path.parts path).reverse
  rw [partsToEntry, List.getLast?_reverse] at h
  rw [h] at hhead
  cases hhead

theorem findParent_eq_ok (h : files.findParent path = .ok (dir, name)) :
    pathError? path = none ∧ (partsToEntry path).getLast? = some name ∧
      files.follow (files.startOf path) (partsToEntry path).dropLast = .ok dir ∧
      files.get? dir = some .directory ∧ name.utf8ByteSize ≤ maxNameBytes := by
  rw [findParent] at h
  split at h
  · cases h
  · cases h
  · next last hpath hlast =>
    split at h
    · cases h
    · next loc hfollow =>
      split at h
      · cases h
      · cases h
      · next hdir =>
        split_ifs at h with hshort
        cases h
        exact ⟨hpath, hlast, hfollow, hdir, Nat.le_of_not_lt hshort⟩

/-- The last part of a path that is neither `.` nor `..` is a name. -/
theorem isName_of_findParent (h : files.findParent path = .ok (dir, name)) (hhere : name ≠ ".")
    (hup : name ≠ "..") : IsName name := by
  obtain ⟨hpath, hlast, -, -, hshort⟩ := findParent_eq_ok h
  obtain ⟨n, hparts⟩ := exists_parts_eq path
  have hmem : name ∈ Path.parts path := by
    rw [hparts]
    exact List.mem_append_left _ (List.mem_of_getLast? hlast)
  have hchars := Path.mem_of_mem_parts hmem
  exact ⟨ne_empty_of_getLast?_partsToEntry hlast, hhere, hup, fun hc => (hchars _ hc).2 rfl,
    fun hc => notMem_nul_of_pathError? hpath (hchars _ hc).1, hshort⟩

theorem follow_blanks (h : files.get? loc = some .directory) (n : Nat) :
    files.follow loc (List.replicate n "") = .ok loc := by
  induction n with
  | zero => rfl
  | succ n ih =>
    rw [List.replicate_succ, ← List.singleton_append, follow_append_eq_ok_iff]
    exact ⟨loc, (follow_blank_eq_ok_iff (.inl rfl)).2 ⟨h, rfl⟩, ih⟩

/-- Where a path leads that names an entry in a directory. -/
theorem locate_iff_of_findParent (h : files.findParent path = .ok (dir, name))
    (hname : IsName name) {loc : Location} :
    files.locate path = .ok loc ↔
      ∃ n, Path.parts path = partsToEntry path ++ List.replicate n "" ∧
        files.follow (dir ++ [name]) (List.replicate n "") = .ok loc := by
  obtain ⟨-, hlast, hfollow, hdir, -⟩ := findParent_eq_ok h
  obtain ⟨init, hinit⟩ := List.getLast?_eq_some_iff.1 hlast
  rw [hinit, List.dropLast_concat] at hfollow
  have hentry : files.follow (files.startOf path) (partsToEntry path) = .ok (dir ++ [name]) := by
    rw [hinit, follow_append_eq_ok_iff]
    exact ⟨dir, hfollow, (follow_name_eq_ok_iff hname).2 ⟨hdir, rfl⟩⟩
  have hall : ∀ n, files.follow (files.startOf path) (partsToEntry path ++ List.replicate n "") =
      files.follow (dir ++ [name]) (List.replicate n "") := by
    intro n
    rw [follow_append, hentry]
    rfl
  rw [locate]
  constructor
  · intro hlocate
    obtain ⟨n, hparts⟩ := exists_parts_eq path
    rw [hparts, hall] at hlocate
    exact ⟨n, hparts, hlocate⟩
  · rintro ⟨n, hparts, hlocate⟩
    rw [hparts, hall, hlocate]

/-- A path that names a directory leads to it. -/
theorem locate_of_findParent (h : files.findParent path = .ok (dir, name)) (hname : IsName name)
    (hdir : files.get? (dir ++ [name]) = some .directory) :
    files.locate path = .ok (dir ++ [name]) := by
  obtain ⟨n, hparts⟩ := exists_parts_eq path
  exact (locate_iff_of_findParent h hname).2 ⟨n, hparts, follow_blanks hdir n⟩

/-- A path that leads to a directory names no missing entry. -/
theorem get?_ne_none_of_findParent (h : files.findParent path = .ok (dir, name))
    (hname : IsName name) (hlocate : files.locate path = .ok loc)
    (hloc : files.get? loc = some .directory) : files.get? (dir ++ [name]) ≠ none := by
  intro hnone
  obtain ⟨n, -, hfollow⟩ := (locate_iff_of_findParent h hname).1 hlocate
  cases n with
  | zero =>
    obtain rfl : dir ++ [name] = loc := Except.ok.inj hfollow
    rw [hnone] at hloc
    cases hloc
  | succ n =>
    rw [List.replicate_succ, follow, hnone] at hfollow
    cases hfollow

theorem Grows.findParent (h : files.Grows files')
    (hparent : files.findParent path = .ok (dir, name)) :
    files'.findParent path = .ok (dir, name) := by
  obtain ⟨hpath, hlast, hfollow, hdir, hshort⟩ := findParent_eq_ok hparent
  have hstart : files'.startOf path = files.startOf path := by
    rw [startOf, startOf, h.current]
  rw [FileTree.findParent, hpath, hlast]
  dsimp only
  rw [hstart, h.follow hfollow]
  dsimp only
  rw [h.directory dir hdir]
  exact if_neg (Nat.not_lt.2 hshort)

/-! ## Creating directories -/

theorem makeDirectory_eq_ok (h : files.makeDirectory path = .ok files') :
    ∃ dir name, files.findParent path = .ok (dir, name) ∧ IsName name ∧
      files.get? (dir ++ [name]) = none ∧ files' = files.put (dir ++ [name]) .directory := by
  rw [makeDirectory] at h
  split at h
  · cases h
  · next dir name hparent =>
    split_ifs at h with hexists
    simp only [Bool.or_eq_true, beq_iff_eq, not_or, Option.not_isSome_iff_eq_none] at hexists
    obtain ⟨⟨hhere, hup⟩, hnone⟩ := hexists
    exact ⟨dir, name, hparent, isName_of_findParent hparent hhere hup, hnone,
      (Except.ok.inj h).symm⟩

theorem hasDirectory_iff :
    files.hasDirectory path ↔ pathError? path = none ∧
      ∃ loc, files.locate path = .ok loc ∧ files.get? loc = some .directory := by
  rw [hasDirectory]
  constructor
  · intro h
    split at h
    · next loc e hfind =>
      obtain ⟨hpath, hlocate, hget⟩ := find_eq_ok_iff.1 hfind
      cases e with
      | directory => exact ⟨hpath, loc, hlocate, hget⟩
      | file => cases h
    · cases h
  · rintro ⟨hpath, loc, hlocate, hget⟩
    rw [find_eq_ok_iff.2 ⟨hpath, hlocate, hget⟩]
    rfl

/-- A path leads to a directory. -/
def LeadsToDirectory (files : FileTree) (path : String) : Prop :=
  ∃ loc, files.locate path = .ok loc ∧ files.get? loc = some .directory

/-- At most the directory that the path leads to is added. -/
theorem addsDirectories_ensureDirectory (hf : files.WellFormed) (path : String) :
    AddsDirectories (fun loc => (files.ensureDirectory path).1.locate path = .ok loc) files
      (files.ensureDirectory path).1 := by
  rw [ensureDirectory]
  cases hmake : files.makeDirectory path with
  | error err => exact .refl hf _
  | ok made =>
    obtain ⟨dir, name, hparent, hname, hnone, rfl⟩ := makeDirectory_eq_ok hmake
    have hadds : AddsDirectories (fun _ => True) files (files.put (dir ++ [name]) .directory) :=
      addsDirectories_put hf (findParent_eq_ok hparent).2.2.2.1 hname hnone trivial
    refine addsDirectories_put hf (findParent_eq_ok hparent).2.2.2.1 hname hnone ?_
    refine locate_of_findParent (hadds.grows.findParent hparent) hname ?_
    rw [get?_put files (by simp), if_pos rfl]

theorem leadsToDirectory_ensureDirectory (hf : files.WellFormed) {path : String}
    (h : (files.ensureDirectory path).2 = .ok ()) :
    (files.ensureDirectory path).1.LeadsToDirectory path := by
  have hadds := addsDirectories_ensureDirectory hf path
  rw [ensureDirectory] at h hadds ⊢
  cases hmake : files.makeDirectory path with
  | error err =>
    rw [hmake] at h
    dsimp only at h
    split_ifs at h with hdir
    exact (hasDirectory_iff.1 hdir).2
  | ok made =>
    rw [hmake] at hadds
    obtain ⟨dir, name, -, -, hnone, rfl⟩ := makeDirectory_eq_ok hmake
    have hget : (files.put (dir ++ [name]) .directory).get? (dir ++ [name]) = some .directory := by
      rw [get?_put files (by simp), if_pos rfl]
    rcases hadds.get? (dir ++ [name]) with heq | ⟨-, -, hlocate⟩
    · rw [hnone, hget] at heq
      cases heq
    · exact ⟨dir ++ [name], hlocate, hget⟩

theorem createChain_cons_of_ne {around : List String} (h : Path.components path ≠ []) :
    files.createChain (path :: around) =
      match files.ensureDirectory path with
      | (files, .error .notFound) =>
        match files.createChain around with
        | (files, .error e) => (files, .error e)
        | (files, .ok ()) => files.ensureDirectory path
      | result => result :=
  if_neg (by simpa using h)

theorem createChain_cons_of_eq {around : List String} (h : Path.components path = []) :
    files.createChain (path :: around) = (files, .ok ()) := by
  rw [createChain, if_pos (by simp [h])]

/-- What happens to the first directory of a chain: it is created or found, or it is not
    because of some error, or it is tried again after the directories around it. -/
theorem createChain_cases (files : FileTree) (around : List String)
    (h : Path.components path ≠ []) :
    files.createChain (path :: around) = files.ensureDirectory path ∨
    (files.ensureDirectory path).2 = .error .notFound ∧
      ((files.createChain (path :: around)).1 =
          ((files.ensureDirectory path).1.createChain around).1 ∧
          (files.createChain (path :: around)).2 ≠ .ok () ∨
        files.createChain (path :: around) =
          ((files.ensureDirectory path).1.createChain around).1.ensureDirectory path) := by
  rw [createChain_cons_of_ne h]
  split
  · next files₁ hensure =>
    right
    rw [hensure]
    refine ⟨rfl, ?_⟩
    dsimp only
    split
    · next heq =>
      left
      rw [heq]
      exact ⟨rfl, nofun⟩
    · next heq =>
      right
      rw [heq]
  · left
    rfl

/-- Of a chain of directories, only those are added that one of its paths leads to. -/
theorem addsDirectories_createChain_paths (hf : files.WellFormed) (paths : List String) :
    AddsDirectories
      (fun loc => ∃ path ∈ paths, (files.createChain paths).1.locate path = .ok loc) files
      (files.createChain paths).1 := by
  induction paths generalizing files with
  | nil => exact .refl hf _
  | cons path around ih =>
    by_cases hne : Path.components path = []
    · rw [createChain_cons_of_eq hne]
      exact .refl hf _
    have hfirst := addsDirectories_ensureDirectory hf path
    have haround := ih hfirst.wellFormed
    have hlast := addsDirectories_ensureDirectory haround.wellFormed path
    rcases createChain_cases files around hne with h | ⟨-, ⟨h, -⟩ | h⟩ <;> rw [h]
    · exact hfirst.mono fun loc hloc => ⟨path, List.mem_cons_self, hloc⟩
    · refine (hfirst.mono fun loc hloc => ?_).trans (haround.mono ?_)
      · exact ⟨path, List.mem_cons_self, haround.grows.locate hloc⟩
      · rintro loc ⟨p, hp, hloc⟩
        exact ⟨p, List.mem_cons_of_mem _ hp, hloc⟩
    · refine ((hfirst.mono fun loc hloc => ?_).trans (haround.mono ?_)).trans
        (hlast.mono fun loc hloc => ⟨path, List.mem_cons_self, hloc⟩)
      · exact ⟨path, List.mem_cons_self, hlast.grows.locate (haround.grows.locate hloc)⟩
      · rintro loc ⟨p, hp, hloc⟩
        exact ⟨p, List.mem_cons_of_mem _ hp, hlast.grows.locate hloc⟩

theorem addsDirectories_createChain (hf : files.WellFormed) (paths : List String) :
    AddsDirectories (fun _ => True) files (files.createChain paths).1 :=
  (addsDirectories_createChain_paths hf paths).mono fun _ _ => trivial

theorem eq_empty_of_components (h : Path.components path = []) : path = "" := by
  rw [Path.components_eq] at h
  obtain ⟨first, rest, hparts⟩ := List.exists_cons_of_ne_nil (Path.parts_ne_nil path)
  rw [hparts, Path.componentsOf, List.append_eq_nil_iff] at h
  obtain ⟨hstart, -⟩ := h
  split_ifs at hstart with hroot hhere
  have hfirst : first = "" := by
    by_contra hne
    by_cases hup : first = ".."
    · simp [Path.component?, hup] at hstart
    · simp [Path.component?, hne, hup, show first ≠ "." by simpa using hhere] at hstart
  subst hfirst
  have hrest : rest = [] := by simpa using hroot
  rw [hrest] at hparts
  exact Path.eq_empty_of_parts hparts

theorem addsDirectories_createAll (hf : files.WellFormed) (path : String) :
    AddsDirectories (fun _ => True) files (files.createAll path).1 :=
  addsDirectories_createChain hf _

/-- A directory that could be created is there. -/
theorem leadsToDirectory_createChain (hf : files.WellFormed) {path : String}
    {around : List String} (h : (files.createChain (path :: around)).2 = .ok ()) :
    (files.createChain (path :: around)).1.LeadsToDirectory path := by
  by_cases hne : Path.components path = []
  · obtain rfl := eq_empty_of_components hne
    rw [createChain_cons_of_eq hne]
    exact ⟨files.current, locate_empty hf, hf.current⟩
  have hfirst := addsDirectories_ensureDirectory hf path
  have haround := addsDirectories_createChain hfirst.wellFormed around
  rcases createChain_cases files around hne with heq | ⟨-, ⟨-, hfail⟩ | heq⟩
  · rw [heq] at h ⊢
    exact leadsToDirectory_ensureDirectory hf h
  · exact absurd h hfail
  · rw [heq] at h ⊢
    exact leadsToDirectory_ensureDirectory haround.wellFormed h

theorem leadsToDirectory_createAll (hf : files.WellFormed) {path : String}
    (h : (files.createAll path).2 = .ok ()) : (files.createAll path).1.LeadsToDirectory path :=
  leadsToDirectory_createChain hf h

/-! ## Directories on the way to a result -/

theorem locate_slash {q : String} (h : q ≠ "") :
    files.locate (q ++ "/") = .ok loc ↔
      files.locate q = .ok loc ∧ files.get? loc = some .directory := by
  have hparts : Path.parts (q ++ "/") = Path.parts q ++ [""] := by
    have hparts := Path.parts_append q ""
    rwa [String.append_empty] at hparts
  rw [locate, startOf_append h, hparts, follow_append_eq_ok_iff]
  simp only [follow_blank_eq_ok_iff (Or.inl rfl)]
  constructor
  · rintro ⟨mid, hmid, hdir, rfl⟩
    exact ⟨hmid, hdir⟩
  · rintro ⟨hq, hdir⟩
    exact ⟨loc, hq, hdir, rfl⟩

theorem locate_slash_here {q : String} (h : q ≠ "") :
    files.locate (q ++ "/.") = .ok loc ↔
      files.locate q = .ok loc ∧ files.get? loc = some .directory := by
  have hparts : Path.parts (q ++ "/.") = Path.parts q ++ ["."] := by
    have hparts := Path.parts_append q "."
    rwa [String.append_assoc] at hparts
  rw [locate, startOf_append h, hparts, follow_append_eq_ok_iff]
  simp only [follow_blank_eq_ok_iff (Or.inr rfl)]
  constructor
  · rintro ⟨mid, hmid, hdir, rfl⟩
    exact ⟨hmid, hdir⟩
  · rintro ⟨hq, hdir⟩
    exact ⟨loc, hq, hdir, rfl⟩

/-- Slashes and `.` parts at the end of the path of a directory do not matter. -/
theorem locate_trimEnd (h : files.locate path = .ok loc) :
    files.locate (Path.trimEnd path) = .ok loc := by
  have hmain : ∀ cs : List Char, files.locate (String.ofList cs.reverse) = .ok loc →
      files.locate (String.ofList (Path.trimEndBackwards cs).reverse) = .ok loc := by
    intro cs h
    have hne : ∀ {ds : List Char}, ¬ ds.isEmpty → String.ofList ds.reverse ≠ "" := by
      intro ds hds hempty
      exact hds (by simpa using hempty)
    fun_induction Path.trimEndBackwards cs with
    | case1 cs hempty => simpa [List.isEmpty_iff.1 hempty] using h
    | case2 cs hnonempty ih =>
      refine ih ?_
      rw [List.reverse_cons, String.ofList_append] at h
      exact ((locate_slash (hne hnonempty)).1 h).1
    | case3 cs hempty =>
      obtain rfl := List.isEmpty_iff.1 hempty
      exact h
    | case4 cs hnonempty ih =>
      refine ih ?_
      rw [List.reverse_cons, List.reverse_cons, List.append_assoc, String.ofList_append] at h
      exact ((locate_slash_here (hne hnonempty)).1 h).1
    | case5 cs => exact h
  refine hmain path.toList.reverse ?_
  rwa [List.reverse_reverse, String.ofList_toList]

/-- Nothing is created in front of a directory that is there. -/
theorem createChain_of_leadsToDirectory (h : files.LeadsToDirectory path)
    (around : List String) : (files.createChain (path :: around)).1 = files := by
  by_cases hne : Path.components path = []
  · rw [createChain_cons_of_eq hne]
  have hpath : path ≠ "" := by
    rintro rfl
    exact hne rfl
  obtain ⟨loc, hlocate, hdir⟩ := h
  have hensure : (files.ensureDirectory path).1 = files ∧
      (files.ensureDirectory path).2 ≠ .error .notFound := by
    rw [ensureDirectory]
    cases hmake : files.makeDirectory path with
    | ok made =>
      obtain ⟨dir, name, hparent, hname, hnone, -⟩ := makeDirectory_eq_ok hmake
      exact absurd hnone (get?_ne_none_of_findParent hparent hname hlocate hdir)
    | error err =>
      refine ⟨rfl, ?_⟩
      dsimp only
      split_ifs with hhas
      · exact nofun
      · intro heq
        cases hpathError : pathError? path with
        | none => exact hhas (hasDirectory_iff.2 ⟨hpathError, loc, hlocate, hdir⟩)
        | some err' =>
          -- the error is that of the path, and no path but the empty one is not found
          have herr : err = err' := by
            rw [makeDirectory, findParent, hpathError] at hmake
            exact (Except.error.inj hmake).symm
          rw [Except.error.injEq] at heq
          exact pathError?_ne_notFound hpath (by rw [hpathError, ← herr, heq])
  rcases createChain_cases files around hne with heq | ⟨hfail, -⟩
  · rw [heq, hensure.1]
  · exact absurd hfail hensure.2

/-- Directories are created on the way from a directory to names behind its path. -/
theorem addsDirectories_createChain_joinAll {output : String} {names : List String}
    (hf : files.WellFormed) (hout : files.locate output = .ok loc)
    (hdir : files.get? loc = some .directory) (hnames : ∀ name ∈ names, IsName name) (n : Nat) :
    AddsDirectories (fun l => ∃ ps, ps <+: names ∧ l = loc ++ ps) files
      (files.createChain (Path.trimEnd (Path.joinAll output names) ::
        Path.parents n (Path.trimEnd (Path.joinAll output names)))).1 := by
  -- by the last name: the parent of the whole path is the path of the names before it
  induction names using List.reverseRecOn generalizing files n with
  | nil =>
    rw [show Path.joinAll output [] = output from rfl,
      createChain_of_leadsToDirectory ⟨loc, locate_trimEnd hout, hdir⟩]
    exact .refl hf _
  | append_singleton names name ih =>
    have hname : IsName name := hnames name (by simp)
    have hmore : ∀ name ∈ names, IsName name := fun n hn => hnames n (List.mem_append_left _ hn)
    rw [Path.joinAll_concat, Path.trimEnd_join _ hname]
    set path := Path.join (Path.joinAll output names) name with hpath
    have hjoin : Path.joinAll output (names ++ [name]) = path := Path.joinAll_concat _ _ _
    have hensure : ∀ {files : FileTree}, files.WellFormed → files.locate output = .ok loc →
        AddsDirectories (fun l => ∃ ps, ps <+: names ++ [name] ∧ l = loc ++ ps) files
          (files.ensureDirectory path).1 := by
      intro files hf hout
      have hadds := addsDirectories_ensureDirectory hf path
      refine hadds.mono fun l hl => ⟨names ++ [name], List.prefix_refl _, ?_⟩
      refine eq_of_locate_joinAll hadds.wellFormed (hadds.grows.locate hout) hnames ?_
      rw [hjoin]
      exact hl
    have hfirst := hensure hf hout
    have haround : AddsDirectories (fun l => ∃ ps, ps <+: names ++ [name] ∧ l = loc ++ ps) files
        ((files.ensureDirectory path).1.createChain (Path.parents n path)).1 := by
      cases n with
      | zero => exact hfirst
      | succ n =>
        have hparent : Path.parent? path = some (Path.trimEnd (Path.joinAll output names)) :=
          Path.parent?_join _ hname.no_slash (Path.component?_of_isName hname)
        rw [Path.parents, hparent]
        refine hfirst.trans ((ih hfirst.wellFormed (hfirst.grows.locate hout)
          (hfirst.grows.directory loc hdir) hmore n).mono ?_)
        rintro l ⟨ps, hps, rfl⟩
        exact ⟨ps, hps.trans (List.prefix_append _ _), rfl⟩
    have hne : Path.components path ≠ [] := by
      rw [hpath, Path.components_join _ hname]
      simp
    rcases createChain_cases files (Path.parents n path) hne with
      h | ⟨-, ⟨h, -⟩ | h⟩ <;> rw [h]
    · exact hfirst
    · exact haround
    · exact haround.trans (hensure haround.wellFormed (haround.grows.locate hout))

/-- **The directories around a result are created on the way to it** from the output
    directory. -/
theorem addsDirectories_createAll_joinAll {output : String} {names : List String}
    (hf : files.WellFormed) (hout : files.locate output = .ok loc)
    (hdir : files.get? loc = some .directory) (hnames : ∀ name ∈ names, IsName name) :
    AddsDirectories (fun l => ∃ ps, ps <+: names ∧ l = loc ++ ps) files
      (files.createAll (Path.trimEnd (Path.joinAll output names))).1 :=
  addsDirectories_createChain_joinAll hf hout hdir hnames _

/-! ## Writing -/

theorem getLast?_splitSlashes {cs : List Char} (h : (Path.splitSlashes cs).getLast? = some []) :
    cs = [] ∨ cs.getLast? = some '/' := by
  induction cs with
  | nil => exact .inl rfl
  | cons c cs ih =>
    right
    obtain ⟨part, parts, hsplit⟩ := List.exists_cons_of_ne_nil (Path.splitSlashes_ne_nil cs)
    have hcs : cs = [] ∨ cs.getLast? = some '/' → (c = '/' ∨ cs ≠ []) →
        (c :: cs).getLast? = some '/' := by
      rintro (rfl | hlast) hc
      · simpa using hc
      · rw [List.getLast?_cons, hlast]
        rfl
    rw [Path.splitSlashes_cons c hsplit] at h
    rw [hsplit] at ih
    by_cases hc : c = '/'
    · rw [if_pos (by simpa using hc), List.getLast?_cons_cons] at h
      exact hcs (ih h) (.inl hc)
    · rw [if_neg (by simpa using hc)] at h
      cases parts with
      | nil => simp at h
      | cons q qs =>
        rw [List.getLast?_cons_cons] at h
        refine hcs (ih (by rwa [List.getLast?_cons_cons])) (.inr ?_)
        rintro rfl
        simp [Path.splitSlashes] at hsplit

/-- A path that does not end in a slash has no empty parts behind its entry. -/
theorem parts_eq_partsToEntry (hne : path ≠ "") (h : path.toList.getLast? ≠ some '/') :
    Path.parts path = partsToEntry path := by
  obtain ⟨n, hparts⟩ := exists_parts_eq path
  cases n with
  | zero => simpa using hparts
  | succ n =>
    have hlast : (Path.parts path).getLast? = some "" := by
      rw [hparts, List.replicate_succ', ← List.append_assoc, List.getLast?_concat]
    rw [Path.parts, List.getLast?_map] at hlast
    obtain ⟨cs, hcs, hempty⟩ := Option.map_eq_some_iff.1 hlast
    obtain rfl : cs = [] := by simpa using hempty
    rcases getLast?_splitSlashes hcs with hnil | hslash
    · exact absurd (String.toList_eq_nil_iff.1 hnil) hne
    · exact absurd hslash h

/-- **Writing puts one file** at the location that the path leads to. -/
theorem write_eq_ok {content : ByteArray} (h : files.write path content = .ok files') :
    ∃ dir name, IsName name ∧ (Path.parts path).getLast? = some name ∧
      files.get? dir = some .directory ∧ files.get? (dir ++ [name]) ≠ some .directory ∧
      pathError? path = none ∧ files.locate path = .ok (dir ++ [name]) ∧
      files' = files.put (dir ++ [name]) (.file content) := by
  rw [write] at h
  split at h
  · cases h
  · next dir name hparent =>
    obtain ⟨hpath, hlast, -, hdir, -⟩ := findParent_eq_ok hparent
    split_ifs at h with hrefused
    simp only [Bool.or_eq_true, beq_iff_eq, not_or] at hrefused
    obtain ⟨⟨hhere, hup⟩, hslash⟩ := hrefused
    have hname := isName_of_findParent hparent hhere hup
    have hparts := parts_eq_partsToEntry (ne_empty_of_pathError? hpath) hslash
    have hlocate : files.locate path = .ok (dir ++ [name]) :=
      (locate_iff_of_findParent hparent hname).2 ⟨0, by simpa using hparts, rfl⟩
    split at h
    · cases h
    · next hfile =>
      exact ⟨dir, name, hname, by rwa [hparts], hdir, hfile, hpath, hlocate,
        (Except.ok.inj h).symm⟩

end WidgetMarkup.FileTree
