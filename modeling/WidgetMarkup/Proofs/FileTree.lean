/-
  Well-formed file trees and what paths lead to in them.

  * `WellFormed` says that entries are in order, have names that a file system takes, and
    stand inside directories.  Then `get?`, the entries and the listings of directories say
    the same (`mem_entries_iff`, `mem_list_iff`).
  * `locate_join_iff`: a name behind a path leads into the directory that the path leads to.
  * `Grows`: directories stay directories and files stay files, so that paths keep leading
    to where they led.
-/
import Mathlib.Data.List.Induction
import Mathlib.Data.List.Lex
import Mathlib.Data.String.Basic
import WidgetMarkup.Proofs.Paths

namespace WidgetMarkup.FileTree

variable {files : FileTree} {loc dir : Location} {name : String} {e : Entry}

/-! ## Entries -/

@[simp]
theorem get?_nil (files : FileTree) : files.get? [] = some .directory := rfl

theorem get?_of_ne_nil (h : loc ≠ []) : files.get? loc = files.entries.lookup loc :=
  if_neg h

theorem lookup_putEntry (loc loc' : Location) (e : Entry) (l : List (Location × Entry)) :
    (putEntry loc e l).lookup loc' = if loc' = loc then some e else l.lookup loc' := by
  induction l with
  | nil =>
    by_cases h : loc' = loc
    · simp [putEntry, h]
    · simp [putEntry, h]
  | cons x rest ih =>
    obtain ⟨key, entry⟩ := x
    rw [putEntry]
    by_cases h : loc' = loc
    · subst h
      by_cases hkey : loc' = key
      · simp [hkey]
      · rw [if_neg hkey]
        split
        · simp
        · rw [List.lookup_cons, beq_false_of_ne hkey, ih]
          simp
    · by_cases hkey : loc = key
      · subst hkey
        simp [List.lookup_cons, beq_false_of_ne h, h]
      · rw [if_neg hkey]
        split
        · rw [List.lookup_cons, beq_false_of_ne h]
        · rw [List.lookup_cons, ih, List.lookup_cons, if_neg h]

theorem get?_put (files : FileTree) (h : loc ≠ []) (e : Entry) (loc' : Location) :
    (files.put loc e).get? loc' = if loc' = loc then some e else files.get? loc' := by
  by_cases hnil : loc' = []
  · subst hnil
    rw [get?_nil, get?_nil, if_neg (Ne.symm h)]
  · rw [get?_of_ne_nil hnil, get?_of_ne_nil hnil, put, lookup_putEntry]

theorem mem_putEntry {loc : Location} {e : Entry} {l : List (Location × Entry)}
    {x : Location × Entry} (h : x ∈ putEntry loc e l) : x = (loc, e) ∨ x ∈ l := by
  induction l with
  | nil => simpa [putEntry] using h
  | cons y rest ih =>
    rw [putEntry] at h
    split at h
    · rcases List.mem_cons.1 h with h | h
      · exact .inl h
      · exact .inr (List.mem_cons_of_mem _ h)
    · split at h
      · exact List.mem_cons.1 h
      · rcases List.mem_cons.1 h with h | h
        · exact .inr (h ▸ List.mem_cons_self)
        · exact (ih h).imp_right (List.mem_cons_of_mem _)

/-- Entries that are in order stay in order. -/
theorem pairwise_putEntry (loc : Location) (e : Entry) {l : List (Location × Entry)}
    (h : l.Pairwise fun x y => x.1 < y.1) : (putEntry loc e l).Pairwise fun x y => x.1 < y.1 := by
  induction l with
  | nil => exact List.pairwise_singleton _ _
  | cons y rest ih =>
    obtain ⟨key, entry⟩ := y
    obtain ⟨hkey, hrest⟩ := List.pairwise_cons.1 h
    rw [putEntry]
    split
    · next heq =>
      subst heq
      exact List.pairwise_cons.2 ⟨hkey, hrest⟩
    · next hne =>
      split
      · next hlt =>
        refine List.pairwise_cons.2 ⟨?_, h⟩
        intro x hx
        rcases List.mem_cons.1 hx with rfl | hx
        · exact hlt
        · exact hlt.trans (hkey x hx)
      · next hnlt =>
        refine List.pairwise_cons.2 ⟨?_, ih hrest⟩
        intro x hx
        rcases mem_putEntry hx with rfl | hx
        · exact lt_of_le_of_ne (not_lt.1 hnlt) (Ne.symm hne)
        · exact hkey x hx

/-! ## Well-formed trees -/

/-- A tree of files: entries in order, each with names on the way to it and inside a
    directory.  The current directory is one. -/
structure WellFormed (files : FileTree) : Prop where
  sorted : files.entries.Pairwise fun x y => x.1 < y.1
  ne_root : ∀ x ∈ files.entries, x.1 ≠ []
  names : ∀ x ∈ files.entries, ∀ name ∈ x.1, IsName name
  parents : ∀ x ∈ files.entries, files.get? x.1.dropLast = some .directory
  current : files.get? files.current = some .directory

theorem lookup_eq_of_mem {l : List (Location × Entry)}
    (h : l.Pairwise fun x y => x.1 < y.1) (hmem : (loc, e) ∈ l) : l.lookup loc = some e := by
  induction l with
  | nil => nomatch hmem
  | cons y rest ih =>
    obtain ⟨hy, hrest⟩ := List.pairwise_cons.1 h
    rcases List.mem_cons.1 hmem with rfl | hmem
    · simp
    · have hne : loc ≠ y.1 := fun heq => lt_irrefl loc (by simpa [← heq] using hy _ hmem)
      rw [List.lookup_cons, beq_false_of_ne hne]
      exact ih hrest hmem

theorem WellFormed.mem_entries_iff (hf : files.WellFormed) :
    (loc, e) ∈ files.entries ↔ loc ≠ [] ∧ files.get? loc = some e := by
  constructor
  · intro h
    have hne := hf.ne_root _ h
    exact ⟨hne, by rw [get?_of_ne_nil hne, lookup_eq_of_mem hf.sorted h]⟩
  · rintro ⟨hne, h⟩
    rw [get?_of_ne_nil hne] at h
    obtain ⟨l₁, l₂, heq, -⟩ := List.lookup_eq_some_iff.1 h
    rw [heq]
    exact List.mem_append_right _ List.mem_cons_self

theorem WellFormed.isName (hf : files.WellFormed) (h : files.get? loc = some e) :
    ∀ name ∈ loc, IsName name := by
  by_cases hnil : loc = []
  · rw [hnil]
    exact nofun
  · exact hf.names _ (hf.mem_entries_iff.2 ⟨hnil, h⟩)

/-- What stands on the way to an entry is a directory. -/
theorem WellFormed.get?_around (hf : files.WellFormed) {names : List String} (hne : names ≠ [])
    (h : files.get? (loc ++ names) = some e) : files.get? loc = some .directory := by
  induction names using List.reverseRecOn generalizing e with
  | nil => exact absurd rfl hne
  | append_singleton names name ih =>
    have hparent := hf.parents _ (hf.mem_entries_iff.2 ⟨by simp, h⟩)
    rw [← List.append_assoc, List.dropLast_concat] at hparent
    by_cases hnames : names = []
    · simpa [hnames] using hparent
    · exact ih hnames hparent

/-- Nothing is inside a file. -/
theorem WellFormed.eq_nil_of_file (hf : files.WellFormed) {names : List String}
    {content : ByteArray} (hfile : files.get? loc = some (.file content))
    (h : files.get? (loc ++ names) = some e) : names = [] := by
  by_contra hne
  rw [hf.get?_around hne h] at hfile
  cases hfile

/-- What a directory shows of an entry. -/
def listed? (dir : Location) (x : Location × Entry) : Option (String × Entry) :=
  x.1.getLast?.bind fun name => if x.1.dropLast = dir then some (name, x.2) else none

theorem list_eq (files : FileTree) (dir : Location) :
    files.list dir = files.entries.filterMap (listed? dir) := by
  rw [list]
  congr 1
  funext ⟨loc, e⟩
  rw [listed?]
  dsimp only
  cases loc.getLast? <;> rfl

theorem listed?_eq_some_iff {x : Location × Entry} :
    listed? dir x = some (name, e) ↔ x = (dir ++ [name], e) := by
  obtain ⟨loc, entry⟩ := x
  rw [listed?, Option.bind_eq_some_iff]
  constructor
  · rintro ⟨last, hlast, h⟩
    split_ifs at h with hdir
    cases h
    obtain ⟨init, rfl⟩ := List.getLast?_eq_some_iff.1 hlast
    rw [← hdir, List.dropLast_concat]
  · rintro h
    cases h
    exact ⟨name, by simp, by simp⟩

theorem WellFormed.mem_list_iff (hf : files.WellFormed) :
    (name, e) ∈ files.list dir ↔ files.get? (dir ++ [name]) = some e := by
  rw [list_eq, List.mem_filterMap]
  simp only [listed?_eq_some_iff, exists_eq_right, hf.mem_entries_iff]
  simp

theorem append_lt_append_iff (loc names more : List String) :
    loc ++ names < loc ++ more ↔ names < more := by
  induction loc with
  | nil => rfl
  | cons x xs ih =>
    rw [List.cons_append, List.cons_append, List.cons_lt_cons_iff, ih]
    simp

/-- The names in a directory are in order. -/
theorem WellFormed.pairwise_list (hf : files.WellFormed) (dir : Location) :
    (files.list dir).Pairwise fun x y => x.1 < y.1 := by
  rw [list_eq, List.pairwise_filterMap]
  refine hf.sorted.imp ?_
  rintro a b hlt ⟨name, e⟩ hx ⟨name', e'⟩ hy
  rw [listed?_eq_some_iff.1 hx, listed?_eq_some_iff.1 hy, append_lt_append_iff,
    List.cons_lt_cons_iff] at hlt
  rcases hlt with hlt | ⟨-, hlt⟩
  · exact hlt
  · exact absurd hlt (lt_irrefl _)

/-- A new entry inside a directory, or a file in the place of a file. -/
theorem WellFormed.put (hf : files.WellFormed) (hdir : files.get? dir = some .directory)
    (hname : IsName name) (h : files.get? (dir ++ [name]) ≠ some .directory) (e : Entry) :
    (files.put (dir ++ [name]) e).WellFormed := by
  have hne : dir ++ [name] ≠ [] := by simp
  have hkeep : ∀ loc, files.get? loc = some .directory →
      (files.put (dir ++ [name]) e).get? loc = some .directory := by
    intro loc hloc
    rw [get?_put files hne, if_neg, hloc]
    rintro rfl
    exact h hloc
  refine ⟨pairwise_putEntry _ _ hf.sorted, ?_, ?_, ?_, hkeep _ hf.current⟩
  · intro x hx
    rcases mem_putEntry hx with rfl | hx
    · exact hne
    · exact hf.ne_root x hx
  · intro x hx
    rcases mem_putEntry hx with rfl | hx
    · intro n hn
      rcases List.mem_append.1 hn with hn | hn
      · exact hf.isName hdir n hn
      · exact List.mem_singleton.1 hn ▸ hname
    · exact hf.names x hx
  · intro x hx
    rcases mem_putEntry hx with rfl | hx
    · rw [List.dropLast_concat]
      exact hkeep _ hdir
    · exact hkeep _ (hf.parents x hx)

/-! ## Following parts -/

theorem follow_append (files : FileTree) (loc : Location) (ps qs : List String) :
    files.follow loc (ps ++ qs) = (files.follow loc ps).bind fun loc => files.follow loc qs := by
  induction ps generalizing loc with
  | nil => rfl
  | cons p ps ih =>
    rw [List.cons_append, follow, follow]
    split
    · rfl
    · rfl
    · split_ifs
      · exact ih _
      · exact ih _
      · rfl
      · exact ih _

theorem bind_eq_ok_iff {α β ε : Type} {x : Except ε α} {f : α → Except ε β} {b : β} :
    x.bind f = .ok b ↔ ∃ a, x = .ok a ∧ f a = .ok b := by
  cases x with
  | error e => simp [Except.bind]
  | ok a => simp [Except.bind]

theorem follow_append_eq_ok_iff {ps qs : List String} {loc' : Location} :
    files.follow loc (ps ++ qs) = .ok loc' ↔
      ∃ mid, files.follow loc ps = .ok mid ∧ files.follow mid qs = .ok loc' := by
  rw [follow_append, bind_eq_ok_iff]

/-- A part that names nothing leads to the same directory. -/
theorem follow_blank_eq_ok_iff {part : String} (h : part = "" ∨ part = ".") {loc' : Location} :
    files.follow loc [part] = .ok loc' ↔ files.get? loc = some .directory ∧ loc' = loc := by
  have hpart : (part == "" || part == ".") = true := by simpa using h
  rw [follow]
  split
  · next hget => simp [hget]
  · next hget => simp [hget]
  · next hget =>
    rw [if_pos hpart, follow, Except.ok.injEq, hget]
    exact ⟨fun h => ⟨rfl, h.symm⟩, fun h => h.2.symm⟩

theorem follow_name_eq_ok_iff (hname : IsName name) {loc' : Location} :
    files.follow loc [name] = .ok loc' ↔
      files.get? loc = some .directory ∧ loc' = loc ++ [name] := by
  have hshort : ¬ maxNameBytes < name.utf8ByteSize := Nat.not_lt.2 hname.short
  rw [follow]
  split
  · next hget => simp [hget]
  · next hget => simp [hget]
  · next hget =>
    rw [if_neg (by simp [hname.ne_empty, hname.ne_here]), if_neg (by simp [hname.ne_up]),
      if_neg hshort, follow, Except.ok.injEq, hget]
    exact ⟨fun h => ⟨rfl, h.symm⟩, fun h => h.2.symm⟩

/-! ## Locating paths -/

theorem startOf_append {path : String} (h : path ≠ "") (s : String) :
    files.startOf (path ++ s) = files.startOf path := by
  have hne : path.toList ≠ [] := fun hnil => h (String.toList_eq_nil_iff.1 hnil)
  obtain ⟨c, cs, hc⟩ := List.exists_cons_of_ne_nil hne
  simp [startOf, hc]

theorem startOf_join_part (path : String) {part : String} (hne : part ≠ "")
    (hslash : '/' ∉ part.toList) :
    files.startOf (Path.join path part) = files.startOf path := by
  rcases Path.join_cases path part with ⟨rfl, hj⟩ | ⟨q, rfl, hj⟩ | ⟨hpath, hj⟩ <;> rw [hj]
  · obtain ⟨c, cs, hc⟩ := List.exists_cons_of_ne_nil (mt String.toList_eq_nil_iff.1 hne)
    have hslash : c ≠ '/' := by
      rintro rfl
      exact hslash (hc ▸ List.mem_cons_self)
    simp [startOf, hc, hslash]
  · exact startOf_append (fun h => by simpa using congrArg String.toList h) _
  · rw [String.append_assoc, startOf_append hpath]

theorem startOf_join (path : String) (hname : IsName name) :
    files.startOf (Path.join path name) = files.startOf path :=
  startOf_join_part path hname.ne_empty hname.no_slash

theorem locate_empty (hf : files.WellFormed) : files.locate "" = .ok files.current :=
  (follow_blank_eq_ok_iff (.inl rfl)).2 ⟨hf.current, rfl⟩

/-- **A name behind a path leads into the directory that the path leads to.** -/
theorem locate_join_iff (hf : files.WellFormed) (path : String) (hname : IsName name)
    {loc' : Location} :
    files.locate (Path.join path name) = .ok loc' ↔
      ∃ dir, files.locate path = .ok dir ∧ files.get? dir = some .directory ∧
        loc' = dir ++ [name] := by
  rw [locate, startOf_join path hname]
  rcases Path.join_cases path name with ⟨rfl, -⟩ | ⟨q, rfl, -⟩ | ⟨-, hj⟩
  · rw [Path.parts_join_empty hname.no_slash, follow_name_eq_ok_iff hname, locate_empty hf]
    simp [startOf]
  · have hslash : Path.parts (q ++ "/") = Path.parts q ++ [""] := by
      have hparts := Path.parts_append q ""
      rwa [String.append_empty] at hparts
    rw [Path.parts_join_slash q hname.no_slash, follow_append_eq_ok_iff, locate, hslash]
    simp only [follow_name_eq_ok_iff hname, follow_append_eq_ok_iff,
      follow_blank_eq_ok_iff (Or.inl rfl)]
    constructor
    · rintro ⟨mid, hmid, hdir, rfl⟩
      exact ⟨mid, ⟨mid, hmid, hdir, rfl⟩, hdir, rfl⟩
    · rintro ⟨dir, ⟨mid, hmid, hdir, hmid'⟩, -, rfl⟩
      exact ⟨mid, hmid, hdir, by rw [hmid']⟩
  · rw [hj, Path.parts_append, Path.parts_of_notMem hname.no_slash, follow_append_eq_ok_iff]
    simp only [follow_name_eq_ok_iff hname]
    rfl

/-- Names behind a path lead below the location of the path. -/
theorem eq_of_locate_joinAll (hf : files.WellFormed) {path : String}
    (hpath : files.locate path = .ok loc) {names : List String}
    (hnames : ∀ name ∈ names, IsName name) {loc' : Location}
    (h : files.locate (Path.joinAll path names) = .ok loc') : loc' = loc ++ names := by
  induction names using List.reverseRecOn generalizing loc' with
  | nil =>
    rw [show Path.joinAll path [] = path from rfl, hpath, Except.ok.injEq] at h
    simp [h]
  | append_singleton names name ih =>
    rw [Path.joinAll_concat, locate_join_iff hf _ (hnames name (by simp))] at h
    obtain ⟨dir, hdir, -, rfl⟩ := h
    rw [ih (fun n hn => hnames n (List.mem_append_left _ hn)) hdir, List.append_assoc]

/-- Names on the way to an entry lead to it. -/
theorem locate_joinAll (hf : files.WellFormed) {path : String}
    (hpath : files.locate path = .ok loc) {names : List String}
    (h : files.get? (loc ++ names) = some e) :
    files.locate (Path.joinAll path names) = .ok (loc ++ names) := by
  induction names using List.reverseRecOn generalizing e with
  | nil =>
    rw [List.append_nil]
    exact hpath
  | append_singleton names name ih =>
    have hname : IsName name := hf.isName h name (by simp)
    rw [← List.append_assoc] at h
    have hdir := hf.get?_around (List.cons_ne_nil name []) h
    rw [Path.joinAll_concat, locate_join_iff hf _ hname]
    exact ⟨loc ++ names, ih hdir, hdir, by simp⟩

theorem find_eq_ok_iff {path : String} :
    files.find path = .ok (loc, e) ↔
      pathError? path = none ∧ files.locate path = .ok loc ∧ files.get? loc = some e := by
  rw [find]
  cases hpath : pathError? path with
  | some err => simp
  | none =>
    cases hlocate : files.locate path with
    | error err => simp
    | ok loc' =>
      cases hget : files.get? loc' with
      | none =>
        simp only [hget, reduceCtorEq, false_iff, not_and, Except.ok.injEq, true_and]
        rintro rfl
        simp [hget]
      | some e' =>
        simp only [hget, Except.ok.injEq, Prod.mk.injEq, true_and]
        constructor
        · rintro ⟨rfl, rfl⟩
          exact ⟨rfl, hget⟩
        · rintro ⟨rfl, h⟩
          exact ⟨rfl, Option.some.inj (hget.symm.trans h)⟩

/-! ## Trees that grow -/

/-- Directories stay directories and files stay files. -/
structure Grows (files files' : FileTree) : Prop where
  current : files'.current = files.current
  directory : ∀ loc, files.get? loc = some .directory → files'.get? loc = some .directory
  file : ∀ loc content, files.get? loc = some (.file content) →
    ∃ content', files'.get? loc = some (.file content')

section
variable {files' files'' : FileTree}

theorem Grows.refl (files : FileTree) : files.Grows files :=
  ⟨rfl, fun _ h => h, fun _ content h => ⟨content, h⟩⟩

theorem Grows.trans (h : files.Grows files') (h' : files'.Grows files'') : files.Grows files'' := by
  refine ⟨h'.current.trans h.current, fun loc hloc => h'.directory loc (h.directory loc hloc), ?_⟩
  intro loc content hloc
  obtain ⟨content', hcontent⟩ := h.file loc content hloc
  exact h'.file loc content' hcontent

theorem Grows.get? (h : files.Grows files') (hloc : files.get? loc = some e) :
    ∃ e', files'.get? loc = some e' ∧ e'.isDirectory = e.isDirectory := by
  cases e with
  | directory => exact ⟨.directory, h.directory loc hloc, rfl⟩
  | file content =>
    obtain ⟨content', hcontent⟩ := h.file loc content hloc
    exact ⟨.file content', hcontent, rfl⟩

theorem Grows.follow (h : files.Grows files') {ps : List String} {loc' : Location}
    (hfollow : files.follow loc ps = .ok loc') : files'.follow loc ps = .ok loc' := by
  induction ps generalizing loc with
  | nil => exact hfollow
  | cons p ps ih =>
    rw [FileTree.follow] at hfollow ⊢
    split at hfollow
    · cases hfollow
    · cases hfollow
    · next hget =>
      rw [h.directory loc hget]
      dsimp only
      split_ifs at hfollow ⊢
      · exact ih hfollow
      · exact ih hfollow
      · exact ih hfollow

theorem Grows.locate (h : files.Grows files') {path : String}
    (hlocate : files.locate path = .ok loc) : files'.locate path = .ok loc := by
  have hstart : files'.startOf path = files.startOf path := by
    rw [startOf, startOf, h.current]
  rw [FileTree.locate, hstart]
  exact h.follow hlocate

end

end WidgetMarkup.FileTree
