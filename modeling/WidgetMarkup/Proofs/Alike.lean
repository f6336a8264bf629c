/-
  Trees of files that differ in the content of one file.

  What paths lead to, and which directories can be created, depends on where files and
  directories are and not on what is in the files.

  * `Alike` says that two trees differ in the content of one file.
  * Paths are followed alike (`Alike.locate`), and directories are created alike, or with the
    same error (`Alike.createAll`).
-/
import WidgetMarkup.Proofs.FileOperations

namespace WidgetMarkup.FileTree

/-- Trees with the same entries, but for the content of a file. -/
structure Alike (place : Location) (files files' : FileTree) : Prop where
  current : files'.current = files.current
  other : ∀ loc, loc ≠ place → files'.get? loc = files.get? loc
  file : ∃ content, files.get? place = some (.file content)
  file' : ∃ content, files'.get? place = some (.file content)

variable {place : Location} {files files' : FileTree}

/-- Files and directories are in the same places. -/
theorem Alike.cases (h : Alike place files files') (loc : Location) :
    files'.get? loc = files.get? loc ∨ ∃ content content',
      files.get? loc = some (.file content) ∧ files'.get? loc = some (.file content') := by
  by_cases hloc : loc = place
  · obtain ⟨content, hfile⟩ := h.file
    obtain ⟨content', hfile'⟩ := h.file'
    exact .inr ⟨content, content', hloc ▸ hfile, hloc ▸ hfile'⟩
  · exact .inl (h.other loc hloc)

theorem Alike.get?_directory_iff (h : Alike place files files') {loc : Location} :
    files'.get? loc = some .directory ↔ files.get? loc = some .directory := by
  rcases h.cases loc with heq | ⟨content, content', hfile, hfile'⟩
  · rw [heq]
  · simp [hfile, hfile']

theorem Alike.isSome_get? (h : Alike place files files') (loc : Location) :
    (files'.get? loc).isSome = (files.get? loc).isSome := by
  rcases h.cases loc with heq | ⟨content, content', hfile, hfile'⟩
  · rw [heq]
  · rw [hfile, hfile']
    rfl

/-! ## Following paths -/

theorem Alike.follow (h : Alike place files files') (loc : Location) (parts : List String) :
    files'.follow loc parts = files.follow loc parts := by
  induction parts generalizing loc with
  | nil => rfl
  | cons part parts ih =>
    rw [FileTree.follow, FileTree.follow]
    rcases h.cases loc with heq | ⟨content, content', hfile, hfile'⟩
    · rw [heq, ih, ih, ih]
    · rw [hfile, hfile']

theorem Alike.startOf (h : Alike place files files') (path : String) :
    files'.startOf path = files.startOf path := by
  rw [FileTree.startOf, FileTree.startOf, h.current]

theorem Alike.locate (h : Alike place files files') (path : String) :
    files'.locate path = files.locate path := by
  rw [FileTree.locate, FileTree.locate, h.startOf, h.follow]

theorem Alike.findParent (h : Alike place files files') (path : String) :
    files'.findParent path = files.findParent path := by
  rw [FileTree.findParent, FileTree.findParent]
  split
  · rfl
  · rfl
  · rw [h.startOf, h.follow]
    split
    · rfl
    · next loc _ =>
      rcases h.cases loc with heq | ⟨content, content', hfile, hfile'⟩
      · rw [heq]
      · rw [hfile, hfile']

theorem Alike.hasDirectory (h : Alike place files files') (path : String) :
    files'.hasDirectory path = files.hasDirectory path := by
  rw [Bool.eq_iff_iff, hasDirectory_iff, hasDirectory_iff, h.locate]
  simp only [h.get?_directory_iff]

/-- A path leads to nothing in both trees, or to a file in both, or to a directory. -/
theorem Alike.find_eq_error_iff (h : Alike place files files') (path : String) (e : FileError) :
    files'.find path = .error e ↔ files.find path = .error e := by
  rw [FileTree.find, FileTree.find, h.locate]
  split
  · rfl
  · split
    · rfl
    · next loc _ =>
      rcases h.cases loc with heq | ⟨content, content', hfile, hfile'⟩
      · rw [heq]
      · rw [hfile, hfile']
        simp

/-! ## Creating directories -/

theorem Alike.put (h : Alike place files files') {loc : Location} (hne : loc ≠ [])
    (hplace : loc ≠ place) (e : Entry) : Alike place (files.put loc e) (files'.put loc e) where
  current := h.current
  other := by
    intro loc' hloc'
    rw [get?_put _ hne, get?_put _ hne, h.other loc' hloc']
  file := by
    obtain ⟨content, hfile⟩ := h.file
    exact ⟨content, by rw [get?_put _ hne, if_neg hplace.symm, hfile]⟩
  file' := by
    obtain ⟨content, hfile⟩ := h.file'
    exact ⟨content, by rw [get?_put _ hne, if_neg hplace.symm, hfile]⟩

/-- A directory is created in both trees, or it is not because of the same error. -/
theorem Alike.makeDirectory_cases (h : Alike place files files') (path : String) :
    (∃ e, files.makeDirectory path = .error e ∧ files'.makeDirectory path = .error e) ∨
    ∃ loc, loc ≠ [] ∧ loc ≠ place ∧
      files.makeDirectory path = .ok (files.put loc .directory) ∧
      files'.makeDirectory path = .ok (files'.put loc .directory) := by
  rw [makeDirectory, makeDirectory, h.findParent]
  cases files.findParent path with
  | error e => exact .inl ⟨e, rfl, rfl⟩
  | ok found =>
    obtain ⟨dir, name⟩ := found
    dsimp only
    rw [h.isSome_get?]
    split_ifs with hexists
    · exact .inl ⟨_, rfl, rfl⟩
    · refine .inr ⟨dir ++ [name], by simp, ?_, rfl, rfl⟩
      rintro rfl
      obtain ⟨content, hfile⟩ := h.file
      simp [hfile] at hexists

theorem Alike.ensureDirectory (h : Alike place files files') (path : String) :
    Alike place (files.ensureDirectory path).1 (files'.ensureDirectory path).1 ∧
      (files'.ensureDirectory path).2 = (files.ensureDirectory path).2 := by
  rw [FileTree.ensureDirectory, FileTree.ensureDirectory, h.hasDirectory]
  rcases h.makeDirectory_cases path with ⟨e, hmake, hmake'⟩ | ⟨loc, hne, hplace, hmake, hmake'⟩
  · rw [hmake, hmake']
    exact ⟨h, rfl⟩
  · rw [hmake, hmake']
    exact ⟨h.put hne hplace _, rfl⟩

theorem Alike.createChain (h : Alike place files files') (paths : List String) :
    Alike place (files.createChain paths).1 (files'.createChain paths).1 ∧
      (files'.createChain paths).2 = (files.createChain paths).2 := by
  induction paths generalizing files files' with
  | nil => exact ⟨h, rfl⟩
  | cons path around ih =>
    by_cases hne : Path.components path = []
    · rw [createChain_cons_of_eq hne, createChain_cons_of_eq hne]
      exact ⟨h, rfl⟩
    obtain ⟨hfirst, hresult⟩ := h.ensureDirectory path
    rw [createChain_cons_of_ne hne, createChain_cons_of_ne hne]
    generalize files.ensureDirectory path = first at hfirst hresult ⊢
    generalize files'.ensureDirectory path = first' at hfirst hresult ⊢
    obtain ⟨made, result⟩ := first
    obtain ⟨made', result'⟩ := first'
    obtain rfl : result' = result := hresult
    split
    · next heq =>
      obtain ⟨rfl, rfl⟩ := Prod.mk.inj heq
      dsimp only
      obtain ⟨haround, hresult⟩ := ih hfirst
      generalize made.createChain around = rest at haround hresult ⊢
      generalize made'.createChain around = rest' at haround hresult ⊢
      obtain ⟨more, result⟩ := rest
      obtain ⟨more', result'⟩ := rest'
      obtain rfl : result' = result := hresult
      cases result' with
      | error e => exact ⟨haround, rfl⟩
      | ok => exact haround.ensureDirectory path
    · next hnot =>
      split
      · next heq =>
        obtain ⟨rfl, rfl⟩ := Prod.mk.inj heq
        exact absurd rfl (hnot made)
      · exact ⟨hfirst, rfl⟩

/-- **Directories are created alike in both trees**, or with the same error. -/
theorem Alike.createAll (h : Alike place files files') (path : String) :
    Alike place (files.createAll path).1 (files'.createAll path).1 ∧
      (files'.createAll path).2 = (files.createAll path).2 :=
  h.createChain _

/-- Another content for a file. -/
theorem WellFormed.put_file (hf : files.WellFormed) (hne : place ≠ []) {content : ByteArray}
    (hfile : files.get? place = some (.file content)) (content' : ByteArray) :
    (files.put place (.file content')).WellFormed ∧
      Alike place files (files.put place (.file content')) := by
  obtain ⟨dir, name, rfl⟩ := (List.eq_nil_or_concat' place).resolve_left hne
  have hdir := hf.get?_around (List.cons_ne_nil name []) hfile
  have hname : IsName name := hf.isName hfile name (by simp)
  refine ⟨hf.put hdir hname (by simp [hfile]) _, rfl, fun loc hloc => ?_, ⟨content, hfile⟩,
    content', ?_⟩
  · rw [get?_put files hne, if_neg hloc]
  · rw [get?_put files hne, if_pos rfl]

end WidgetMarkup.FileTree
