/-
  Where results go, and what a run leaves alone.

  * A `Site` is where a run takes place: the files when the walk starts, and the locations
    of the input and of the output directory among them.
  * The result of a file goes to `site.target`, below the output directory.  It is not named
    like a source, and different sources have different targets (`Site.target_injective`).
  * `Site.Underway` is the invariant of a walk: nothing goes away, no source is added or
    changed, and nothing is added deeper than twice the depth of the tree.  One conversion
    keeps it (`FileStep.underway`).
-/
import WidgetMarkup.Proofs.Walk

namespace WidgetMarkup

namespace FileTree

variable {files : FileTree} {loc : Location} {path : String} {e : Entry}

/-- A location that ends in a name with the extension `html`. -/
def HasHtmlName (loc : Location) : Prop :=
  ∃ name, loc.getLast? = some name ∧ Path.IsHtmlName name

theorem WellFormed.length_le_depth (hf : files.WellFormed) (h : files.get? loc = some e) :
    loc.length ≤ files.depth := by
  have hmax : ∀ (l : List (Location × Entry)) (n : Nat),
      n ≤ l.foldl (fun n x => max n x.1.length) n ∧
      ((loc, e) ∈ l → loc.length ≤ l.foldl (fun n x => max n x.1.length) n) := by
    intro l
    induction l with
    | nil => exact fun n => ⟨Nat.le_refl n, nofun⟩
    | cons x l ih =>
      intro n
      obtain ⟨hstart, hmem⟩ := ih (max n x.1.length)
      refine ⟨(Nat.le_max_left _ _).trans hstart, fun hx => ?_⟩
      rcases List.mem_cons.1 hx with rfl | hx
      · exact (Nat.le_max_right _ _).trans hstart
      · exact hmem hx
  by_cases hnil : loc = []
  · simp [hnil]
  · exact (hmax _ 0).2 (hf.mem_entries_iff.2 ⟨hnil, h⟩)

theorem WellFormed.get?_dropLast (hf : files.WellFormed)
    (h : files.get? loc = some .directory) : files.get? loc.dropLast = some .directory := by
  by_cases hnil : loc = []
  · rw [hnil]
    rfl
  · exact hf.parents _ (hf.mem_entries_iff.2 ⟨hnil, h⟩)

/-- The path of a file ends in its name. -/
theorem WellFormed.exists_fileName? (hf : files.WellFormed) {content : ByteArray}
    (hlocate : files.locate path = .ok loc) (hfile : files.get? loc = some (.file content)) :
    ∃ name, loc.getLast? = some name ∧ Path.fileName? path = some name := by
  obtain ⟨init, last, hparts⟩ :=
    (List.eq_nil_or_concat' (Path.parts path)).resolve_left (Path.parts_ne_nil path)
  rw [locate, hparts, follow_append_eq_ok_iff] at hlocate
  obtain ⟨mid, -, hlast⟩ := hlocate
  have hnotdir : files.get? loc ≠ some .directory := by simp [hfile]
  by_cases hblank : last = "" ∨ last = "."
  · obtain ⟨hdir, rfl⟩ := (follow_blank_eq_ok_iff hblank).1 hlast
    exact absurd hdir hnotdir
  rw [follow] at hlast
  split at hlast
  · cases hlast
  · cases hlast
  next hmid =>
  rw [if_neg (by simpa using hblank)] at hlast
  by_cases hup : last = ".."
  · rw [if_pos (by simpa using hup), follow, Except.ok.injEq] at hlast
    exact absurd (hlast ▸ hf.get?_dropLast hmid) hnotdir
  rw [if_neg (by simpa using hup)] at hlast
  split at hlast
  · cases hlast
  · rw [follow, Except.ok.injEq] at hlast
    refine ⟨last, by simp [← hlast], ?_⟩
    have hcomponent : Path.component? last = some (.name last) := by
      rw [Path.component?, if_neg (by simpa using hblank), if_neg (by simpa using hup)]
    have hcomponents : (Path.components path).getLast? = some (.name last) := by
      rw [Path.components_eq, hparts]
      by_cases hinit : init = []
      · have hhere : last ≠ "." := fun h => hblank (.inr h)
        simp [hinit, Path.componentsOf, hcomponent, hhere]
      · rw [Path.componentsOf_concat hinit, hcomponent]
        simp
    rw [Path.fileName?, hcomponents]

end FileTree

open FileTree

/-! ## Target names -/

theorem targetNames_joinAll (config : Config) {names : List String} {name : String}
    (hnames : ∀ n ∈ names, IsName n) (hname : IsName name) :
    targetNames config (Path.joinAll config.input (names ++ [name])) =
      names ++ [Path.setExtension "yuck" name] := by
  have hall : ∀ n ∈ names ++ [name], IsName n := by
    intro n hn
    rcases List.mem_append.1 hn with hn | hn
    · exact hnames n hn
    · exact List.mem_singleton.1 hn ▸ hname
  have htexts : ((names ++ [name]).map Path.Component.name).map Path.Component.text =
      names ++ [name] := by
    rw [List.map_map]
    exact List.map_id _
  obtain ⟨first, rest, hsplit⟩ := List.exists_cons_of_ne_nil
    (by simp : (names ++ [name]).map Path.Component.name ≠ [])
  rw [targetNames, Path.relativeTo?_joinAll hall, hsplit]
  dsimp only
  rw [← hsplit, htexts]
  simp

theorem targetNames_input (config : Config) {name : String}
    (hname : Path.fileName? config.input = some name) :
    targetNames config config.input = [Path.setExtension "yuck" name] := by
  have hrel : Path.relativeTo? config.input (Path.joinAll config.input []) = some [] :=
    Path.relativeTo?_joinAll (by simp) config.input
  rw [targetNames, show Path.relativeTo? config.input config.input = some [] from hrel, hname]
  rfl

/-! ## Sites -/

/-- Where a run takes place: the files when the walk starts, and where input and output are
    among them. -/
structure Site (config : Config) where
  start : FileTree
  input : Location
  output : Location
  wellFormed : start.WellFormed
  pathError?_input : pathError? config.input = none
  locate_input : start.locate config.input = .ok input
  locate_output : start.locate config.output = .ok output
  get?_output : start.get? output = some .directory

namespace Site

variable {config : Config} (site : Site config) {files files' : FileTree} {names : List String}
  {content : ByteArray}

/-- Where the result of a file goes that has these names behind the input. -/
def target (names : List String) : Location :=
  site.output ++ targetNames config (Path.joinAll config.input names)

/-- The state of the files during a walk. -/
structure Underway (files : FileTree) : Prop where
  wellFormed : files.WellFormed
  grows : site.start.Grows files
  /-- No source is new or has another content than before. -/
  source : ∀ loc content, HasHtmlName loc → files.get? loc = some (.file content) →
    site.start.get? loc = some (.file content)
  shallow : ∀ loc e, files.get? loc = some e → loc.length ≤ 2 * site.start.depth

theorem underway_start : site.Underway site.start where
  wellFormed := site.wellFormed
  grows := .refl _
  source := fun _ _ _ h => h
  shallow := fun _ _ h => (site.wellFormed.length_le_depth h).trans (by omega)

/-- The path of a file of the input ends in its name, and so does that of its result. -/
theorem Underway.exists_name {site : Site config} (hU : site.Underway files)
    (hfile : files.get? (site.input ++ names) = some (.file content)) :
    ∃ name, (site.input ++ names).getLast? = some name ∧ IsName name ∧
      (∀ n ∈ names.dropLast, IsName n) ∧
      Path.extension? (Path.joinAll config.input names) = (Path.splitExtension name).2 ∧
      targetNames config (Path.joinAll config.input names) =
        names.dropLast ++ [Path.setExtension "yuck" name] := by
  have hall := hU.wellFormed.isName hfile
  rcases List.eq_nil_or_concat' names with rfl | ⟨init, name, rfl⟩
  · rw [List.append_nil] at hfile hall ⊢
    obtain ⟨name, hlast, hname⟩ :=
      hU.wellFormed.exists_fileName? (hU.grows.locate site.locate_input) hfile
    refine ⟨name, hlast, hall name (List.mem_of_getLast? hlast), nofun, ?_,
      targetNames_input config hname⟩
    rw [Path.extension?, show Path.joinAll config.input [] = config.input from rfl, hname]
    rfl
  · have hname : IsName name := hall name (by simp)
    have hinit : ∀ n ∈ init, IsName n := fun n hn => hall n (by simp [hn])
    refine ⟨name, ?_, hname, by simpa using hinit, ?_, ?_⟩
    · rw [← List.append_assoc, List.getLast?_concat]
    · rw [Path.joinAll_concat, Path.extension?_join _ hname]
    · rw [List.dropLast_concat, targetNames_joinAll config hinit hname]

/-- An HTML file at or below the input, when the walk starts. -/
def IsSource (names : List String) : Prop :=
  HasHtmlName (site.input ++ names) ∧
    ∃ content, site.start.get? (site.input ++ names) = some (.file content)

variable {site}

/-- No source is added during a walk. -/
theorem Underway.isSource (hU : site.Underway files)
    (hfile : files.get? (site.input ++ names) = some (.file content))
    (hhtml : Path.extension? (Path.joinAll config.input names) = some "html") :
    site.IsSource names := by
  obtain ⟨name, hlast, -, -, hext, -⟩ := hU.exists_name hfile
  have hname : HasHtmlName (site.input ++ names) := ⟨name, hlast, hext.symm.trans hhtml⟩
  exact ⟨hname, content, hU.source _ _ hname hfile⟩

theorem Underway.get?_source (hU : site.Underway files) (h : HasHtmlName (site.input ++ names))
    (hfile : site.start.get? (site.input ++ names) = some (.file content)) :
    files.get? (site.input ++ names) = some (.file content) := by
  obtain ⟨content', hcontent⟩ := hU.grows.file _ _ hfile
  have heq := hU.source _ _ h hcontent
  rw [hfile, Option.some.injEq, Entry.file.injEq] at heq
  rw [hcontent, heq]

/-- The target of a source: the names on the way to it, and a name of its own. -/
theorem IsSource.exists_name (h : site.IsSource names) :
    ∃ name, (site.input ++ names).getLast? = some name ∧ Path.IsHtmlName name ∧ IsName name ∧
      (∀ n ∈ names.dropLast, IsName n) ∧
      targetNames config (Path.joinAll config.input names) =
        names.dropLast ++ [Path.setExtension "yuck" name] := by
  obtain ⟨⟨name, hlast, hhtml⟩, content, hfile⟩ := h
  obtain ⟨name', hlast', hname, hinit, -, htarget⟩ := site.underway_start.exists_name hfile
  obtain rfl : name = name' := Option.some.inj (hlast.symm.trans hlast')
  exact ⟨name, hlast, hhtml, hname, hinit, htarget⟩

/-- A source is as deep below the input as its target is below the output directory. -/
theorem IsSource.length_target_le (h : site.IsSource names) :
    site.output.length + names.dropLast.length + 1 ≤ 2 * site.start.depth := by
  obtain ⟨⟨name, hlast, -⟩, content, hfile⟩ := h
  have hin := site.wellFormed.length_le_depth hfile
  have hout := site.wellFormed.length_le_depth site.get?_output
  have hpos : 0 < (site.input ++ names).length :=
    List.length_pos_of_mem (List.mem_of_getLast? hlast)
  rw [List.length_append] at hin hpos
  rw [List.length_dropLast]
  omega

/-- **Different sources have different targets.** -/
theorem IsSource.target_injective {more : List String} (h : site.IsSource names)
    (h' : site.IsSource more) (heq : site.target names = site.target more) : names = more := by
  obtain ⟨name, hlast, hhtml, -, -, htarget⟩ := h.exists_name
  obtain ⟨name', hlast', hhtml', -, -, htarget'⟩ := h'.exists_name
  rw [target, target, List.append_cancel_left_eq, htarget, htarget'] at heq
  obtain ⟨hinit, hext⟩ := List.append_inj' heq rfl
  obtain rfl := hhtml.setExtension_injective hhtml' (List.singleton_inj.1 hext)
  -- the input is a file, and then it is the only source, or all sources have names
  by_cases hnames : names = []
  · subst hnames
    obtain ⟨-, content, hfile⟩ := h
    obtain ⟨-, content', hfile'⟩ := h'
    rw [List.append_nil] at hfile
    exact (site.wellFormed.eq_nil_of_file hfile hfile').symm
  by_cases hmore : more = []
  · subst hmore
    obtain ⟨-, content, hfile⟩ := h
    obtain ⟨-, content', hfile'⟩ := h'
    rw [List.append_nil] at hfile'
    exact site.wellFormed.eq_nil_of_file hfile' hfile
  rw [List.getLast?_append_of_ne_nil _ hnames] at hlast
  rw [List.getLast?_append_of_ne_nil _ hmore] at hlast'
  rw [← List.dropLast_append_getLast? name hlast, ← List.dropLast_append_getLast? name hlast',
    hinit]

/-! ## One conversion -/

/-- The directory of a target is spelled from the output directory. -/
theorem IsSource.targetDirectory_eq (h : site.IsSource names) :
    targetDirectory config (Path.joinAll config.input names) =
      Path.trimEnd (Path.joinAll config.output names.dropLast) := by
  obtain ⟨name, -, hhtml, hname, -, htarget⟩ := h.exists_name
  obtain ⟨c, hc⟩ := hhtml.exists_component?
  rw [targetDirectory, outputPath, htarget, Path.joinAll_concat,
    Path.parent?_join _ (hhtml.notMem_slash hname.no_slash) hc]
  rfl

/-- Directories are created on the way from the output directory to the target. -/
theorem IsSource.addsDirectories (h : site.IsSource names) (hU : site.Underway files) :
    AddsDirectories (fun loc => ∃ ps, ps <+: names.dropLast ∧ loc = site.output ++ ps) files
      (files.createAll (targetDirectory config (Path.joinAll config.input names))).1 := by
  obtain ⟨name, -, -, -, hinit, -⟩ := h.exists_name
  rw [h.targetDirectory_eq]
  exact addsDirectories_createAll_joinAll hU.wellFormed (hU.grows.locate site.locate_output)
    (hU.grows.directory _ site.get?_output) hinit

/-- A result that can be written goes to the target, which names no source and no directory. -/
theorem IsSource.write_eq_ok (h : site.IsSource names) (hU : site.Underway files)
    (hwrite : files.write (outputPath config (Path.joinAll config.input names)) content =
      .ok files') :
    ∃ dir name, site.target names = dir ++ [name] ∧ IsName name ∧ ¬ Path.IsHtmlName name ∧
      files.get? dir = some .directory ∧ files.get? (dir ++ [name]) ≠ some .directory ∧
      pathError? (outputPath config (Path.joinAll config.input names)) = none ∧
      files.locate (outputPath config (Path.joinAll config.input names)) = .ok (dir ++ [name]) ∧
      files' = files.put (dir ++ [name]) (.file content) := by
  obtain ⟨source, -, hhtml, hsource, hinit, htarget⟩ := h.exists_name
  obtain ⟨dir, name, hname, hlast, hdir, hfile, hpath, hlocate, rfl⟩ :=
    FileTree.write_eq_ok hwrite
  rw [outputPath, htarget] at hlocate hlast hpath ⊢
  -- the last part of the path is what the result is named
  obtain ⟨ps, hparts⟩ := Path.exists_parts_join (Path.joinAll config.output names.dropLast)
    (hhtml.notMem_slash hsource.no_slash)
  rw [Path.joinAll_concat, hparts, List.getLast?_concat, Option.some.injEq] at hlast
  rw [hlast] at hlocate hpath htarget ⊢
  have hall : ∀ n ∈ names.dropLast ++ [name], IsName n := by
    intro n hn
    rcases List.mem_append.1 hn with hn | hn
    · exact hinit n hn
    · exact List.mem_singleton.1 hn ▸ hname
  have hloc := eq_of_locate_joinAll hU.wellFormed (hU.grows.locate site.locate_output) hall hlocate
  refine ⟨dir, name, ?_, hname, hlast ▸ hhtml.not_isHtmlName, hdir, hfile, hpath, hlocate, rfl⟩
  rw [target, htarget, hloc]

theorem Underway.addsDirectories (hU : site.Underway files)
    (h : AddsDirectories (fun loc => loc.length ≤ 2 * site.start.depth) files files') :
    site.Underway files' where
  wellFormed := h.wellFormed
  grows := hU.grows.trans h.grows
  source := fun loc content hname hfile => hU.source loc content hname (h.get?_of_file hfile)
  shallow := by
    intro loc e hloc
    rcases h.get? loc with heq | ⟨-, -, hshort⟩
    · exact hU.shallow loc e (heq ▸ hloc)
    · exact hshort

theorem Underway.put (hU : site.Underway files) {dir : Location} {name : String}
    (hname : IsName name) (hhtml : ¬ Path.IsHtmlName name)
    (hdir : files.get? dir = some .directory)
    (hfile : files.get? (dir ++ [name]) ≠ some .directory)
    (hshort : (dir ++ [name]).length ≤ 2 * site.start.depth) (content : ByteArray) :
    site.Underway (files.put (dir ++ [name]) (.file content)) := by
  have hne : dir ++ [name] ≠ [] := by simp
  refine ⟨hU.wellFormed.put hdir hname hfile _, hU.grows.trans (grows_put hne hfile content),
    fun loc content' hloc h => ?_, fun loc e h => ?_⟩
  · rw [get?_put files hne] at h
    split_ifs at h with heq
    · obtain ⟨last, hlast, hlasthtml⟩ := hloc
      rw [heq, List.getLast?_concat, Option.some.injEq] at hlast
      exact absurd (hlast ▸ hlasthtml) hhtml
    · exact hU.source loc content' hloc h
  · rw [get?_put files hne] at h
    split_ifs at h with heq
    · exact heq ▸ hshort
    · exact hU.shallow loc e h

end Site

section
variable {config : Config} {site : Site config} {names : List String} {files files' : FileTree}
  {account : Account}

/-- A conversion creates directories, and may then write the result. -/
theorem FileStep.exists_addsDirectories
    (h : FileStep config (Path.joinAll config.input names) files files' account)
    (hs : site.IsSource names) (hU : site.Underway files) :
    ∃ made, AddsDirectories (fun loc => ∃ ps, ps <+: names.dropLast ∧ loc = site.output ++ ps)
        files made ∧
      (files' = made ∨ ∃ content,
        made.write (outputPath config (Path.joinAll config.input names)) content = .ok files') := by
  have hadds := hs.addsDirectories hU
  cases h with
  | unreadable | untranslatable => exact ⟨files, .refl hU.wellFormed _, .inl rfl⟩
  | uncreatable _ _ hcreate | unwritable _ _ hcreate =>
    rw [hcreate] at hadds
    exact ⟨files', hadds, .inl rfl⟩
  | converted _ _ hcreate hwrite =>
    rw [hcreate] at hadds
    exact ⟨_, hadds, .inr ⟨_, hwrite⟩⟩

theorem Site.IsSource.underway_made {made : FileTree} (hs : site.IsSource names)
    (hU : site.Underway files) (hadds : AddsDirectories
      (fun loc => ∃ ps, ps <+: names.dropLast ∧ loc = site.output ++ ps) files made) :
    site.Underway made := by
  refine hU.addsDirectories (hadds.mono ?_)
  rintro loc ⟨ps, hps, rfl⟩
  have hlength := hs.length_target_le
  have hprefix := hps.length_le
  rw [List.length_append]
  omega

/-- **A conversion keeps the invariant**, and nothing goes away. -/
theorem FileStep.underway
    (h : FileStep config (Path.joinAll config.input names) files files' account)
    (hs : site.IsSource names) (hU : site.Underway files) :
    site.Underway files' ∧ files.Grows files' := by
  obtain ⟨made, hadds, rfl | ⟨content, hwrite⟩⟩ := h.exists_addsDirectories hs hU
  · exact ⟨hs.underway_made hU hadds, hadds.grows⟩
  · have hmade := hs.underway_made hU hadds
    obtain ⟨dir, name, htarget, hname, hhtml, hdir, hfile, -, -, rfl⟩ :=
      hs.write_eq_ok hmade hwrite
    refine ⟨hmade.put hname hhtml hdir hfile ?_ content,
      hadds.grows.trans (grows_put (by simp) hfile content)⟩
    obtain ⟨source, -, -, -, -, hnames⟩ := hs.exists_name
    have hlength := hs.length_target_le
    rw [← htarget, Site.target, hnames]
    simpa [Nat.add_assoc] using hlength

end

end WidgetMarkup
