/-
  What a run leaves alone.

  * `Site.Change` lists what a part of a walk may do to one location: nothing, put a result
    there, or create a directory on the way to the result of a source that could be
    translated.  A conversion does no more (`FileStep.change`), and neither does a walk
    (`composes_change`).
  * `Confined` says the same of a whole run, about the files before it and after it.
  * `confined_runBatch`: every run is confined, also one that fails, and the conversion of a
    file that cannot be read or translated changes no file.
-/
import WidgetMarkup.Proofs.Agreement
import WidgetMarkup.Proofs.Placement

namespace WidgetMarkup

open FileTree

/-! ## One location -/

/-- The translation of a file succeeds. -/
def FileTree.Translates (files : FileTree) (path : String) : Prop :=
  ∃ html text, files.readText path = .ok html ∧ (convert html).1 = .ok text

section
variable {config : Config} {site : Site config} {files mid files' : FileTree}
  {account first rest : Account} {names : List String} {loc : Location}

/-- What a part of a walk may do to a location. -/
inductive Site.Change (site : Site config) (files files' : FileTree) (account : Account)
    (loc : Location) : Prop
  | same (h : files'.get? loc = files.get? loc)
  | result {names : List String} {content : ByteArray} (hs : site.IsSource names)
      (hmem : Path.joinAll config.input names ∈ succeeded account.events)
      (htarget : loc = site.target names) (hbefore : files.get? loc ≠ some .directory)
      (hafter : files'.get? loc = some (.file content))
  | leading {names : List String} (hs : site.IsSource names)
      (hmem : Path.joinAll config.input names ∈ processed account.events)
      (htranslates : site.start.Translates (Path.joinAll config.input names))
      (hleads : site.Leads names loc) (hbefore : files.get? loc = none)
      (hafter : files'.get? loc = some .directory)

/-- **A conversion changes no other location** than that of its result and those of the
    directories around it, and these only if the source could be translated. -/
theorem FileStep.change
    (h : FileStep config (Path.joinAll config.input names) files files' account)
    (hs : site.IsSource names) (hU : site.Underway files) (loc : Location) :
    site.Change files files' account loc := by
  have hmem : Path.joinAll config.input names ∈ processed account.events := by
    rw [h.processed_eq]
    exact List.mem_singleton_self _
  have hadds := hs.addsDirectories hU
  have hsame := hU.readText_source hs
  have hway : ∀ {html text after}, files.readText (Path.joinAll config.input names) = .ok html →
      (convert html).1 = .ok text → (after.get? loc = files.get? loc ∨
        files.get? loc = none ∧ after.get? loc = some .directory ∧ site.Leads names loc) →
      site.Change files after account loc := by
    rintro html text after hread hconvert (heq | ⟨hnone, hdir, hleads⟩)
    · exact .same heq
    · exact .leading hs hmem ⟨html, text, hsame.symm.trans hread, hconvert⟩ hleads hnone hdir
  cases h with
  | unreadable | untranslatable => exact .same rfl
  | uncreatable hread hconvert hcreate | unwritable hread hconvert hcreate =>
    rw [hcreate] at hadds
    exact hway hread hconvert (hadds.get? loc)
  | @converted html text made _ hread hconvert hcreate hwrite =>
    rw [hcreate] at hadds
    obtain ⟨dir, name, htarget, -, -, -, hfile, -, -, rfl⟩ :=
      hs.write_eq_ok (hs.underway_made hU hadds) hwrite
    have hput := get?_put made (List.concat_ne_nil name dir) (.file text.toUTF8) loc
    by_cases hloc : loc = dir ++ [name]
    · rw [if_pos hloc] at hput
      refine .result hs ?_ (hloc.trans htarget.symm) (fun hdir => ?_) hput
      · rw [Account.events_append, succeeded_append]
        exact List.mem_append_right _ List.mem_cons_self
      · exact hfile (hloc ▸ hadds.get?_of_some hdir)
    · rw [if_neg hloc] at hput
      refine hway hread hconvert ?_
      rw [hput]
      exact hadds.get? loc

/-- What one part of a walk does to a location and then another one. -/
theorem Site.Change.trans (h : site.Change files mid first loc)
    (h' : site.Change mid files' rest loc) : site.Change files files' (first ++ rest) loc := by
  cases h with
  | same heq =>
    cases h' with
    | same heq' => exact .same (heq'.trans heq)
    | result hs hmem htarget hbefore hafter =>
      exact .result hs (by simp [hmem]) htarget (heq ▸ hbefore) hafter
    | leading hs hmem htranslates hleads hbefore hafter =>
      exact .leading hs (by simp [hmem]) htranslates hleads (heq ▸ hbefore) hafter
  | result hs hmem htarget hbefore hafter =>
    cases h' with
    | same heq' => exact .result hs (by simp [hmem]) htarget hbefore (heq'.trans hafter)
    | result hs' hmem' htarget' _ hafter' =>
      exact .result hs' (by simp [hmem']) htarget' hbefore hafter'
    | leading _ _ _ _ hbefore' => cases hafter.symm.trans hbefore'
  | leading hs hmem htranslates hleads hbefore hafter =>
    cases h' with
    | same heq' =>
      exact .leading hs (by simp [hmem]) htranslates hleads hbefore (heq'.trans hafter)
    | result _ _ _ hbefore' => exact absurd hafter hbefore'
    | leading _ _ _ _ hbefore' => cases hafter.symm.trans hbefore'

theorem composes_change (site : Site config) :
    site.Composes fun files files' account => ∀ loc, site.Change files files' account loc where
  done := fun _ _ => .same rfl
  skipped := fun _ _ _ => .same rfl
  entered := fun _ _ _ => .same rfl
  unlisted := fun _ _ _ _ => .same rfl
  step := fun hs hU h loc => h.change hs hU loc
  append := fun h h' loc => (h loc).trans (h' loc)

end

/-! ## Whole runs -/

/-- The paths of the results of a run; there are none if it came to no summary. -/
def BatchResult.written (result : BatchResult) : List String :=
  match result.outcome with
  | .ok summary => summary.written
  | .error _ => []

/-- One of the paths of the results leads to the location. -/
def BatchResult.Wrote (result : BatchResult) (loc : Location) : Prop :=
  ∃ target ∈ result.written, ∃ content, result.files.find target = .ok (loc, .file content)

/-- What a run leaves alone, given the files before it.  Paths lead after the run where they
    led before, so they are followed in the files after it. -/
structure Confined (config : Config) (files : FileTree) (result : BatchResult) : Prop where
  /-- Nothing is deleted: directories stay directories and files stay files. -/
  grows : files.Grows result.files
  /-- A file keeps its content unless it is a result. -/
  kept : ∀ loc content, files.get? loc = some (.file content) →
    result.files.get? loc = some (.file content) ∨ result.Wrote loc
  /-- A new file is a result. -/
  newFile : ∀ loc content, files.get? loc = none →
    result.files.get? loc = some (.file content) → result.Wrote loc
  /-- A result has the extension `yuck` and lies below the output directory. -/
  wrote : ∀ loc, result.Wrote loc →
    (∃ name, loc.getLast? = some name ∧ (Path.splitExtension name).2 = some "yuck") ∧
    ∃ output names, result.files.locate config.output = .ok output ∧ names ≠ [] ∧
      loc = output ++ names
  /-- A new directory is the output directory or one around it, or it is on the way from the
      output directory to the target of a file whose translation succeeds. -/
  newDirectory : ∀ loc, files.get? loc = none → result.files.get? loc = some .directory →
    (∃ path ∈ config.output :: Path.ancestors config.output,
      result.files.locate path = .ok loc) ∨
    ∃ source ∈ processed result.events, result.files.Translates source ∧
      ∃ output names, result.files.locate config.output = .ok output ∧
        names <+: (targetNames config source).dropLast ∧ loc = output ++ names
  /-- An older target of a file that cannot be read or translated stays as it was. -/
  untranslated : ∀ source ∈ processed result.events, ¬ result.files.Translates source →
    ∀ content, files.read (outputPath config source) = .ok content →
      result.files.read (outputPath config source) = .ok content
  /-- No file with the extension `html` is changed or created. -/
  html : ∀ loc content, HasHtmlName loc →
    (result.files.get? loc = some (.file content) ↔ files.get? loc = some (.file content))

section
variable {config : Config} {files : FileTree} {result : BatchResult}

/-- A run that only creates the output directory, or part of it. -/
theorem confined_of_addsDirectories
    (hadds : AddsDirectories (fun loc => ∃ path ∈ config.output :: Path.ancestors config.output,
      result.files.locate path = .ok loc) files result.files)
    (hwritten : result.written = []) (hprocessed : processed result.events = []) :
    Confined config files result where
  grows := hadds.grows
  kept := fun _ _ h => .inl (hadds.get?_of_some h)
  newFile := by
    intro loc content hnone hfile
    rw [hadds.get?_of_file hfile] at hnone
    cases hnone
  wrote := by
    rintro loc ⟨target, htarget, -⟩
    rw [hwritten] at htarget
    cases htarget
  newDirectory := by
    intro loc hnone hdir
    rcases hadds.get? loc with heq | ⟨-, -, hpath⟩
    · rw [heq, hnone] at hdir
      cases hdir
    · exact .inl hpath
  untranslated := by
    intro source hsource
    rw [hprocessed] at hsource
    cases hsource
  html := fun _ _ _ => ⟨hadds.get?_of_file, hadds.get?_of_some⟩

end

/-! ## Results and their locations -/

section
variable {config : Config} {site : Site config} {files : FileTree} {names : List String}
  {loc : Location} {content : ByteArray}

theorem Site.IsSource.exists_extension_target (hs : site.IsSource names)
    (hup : (site.target names).getLast? ≠ some "..") :
    ∃ name, (site.target names).getLast? = some name ∧
      (Path.splitExtension name).2 = some "yuck" := by
  obtain ⟨name, -, hhtml, -, -, htarget⟩ := hs.exists_name
  rw [target, htarget, ← List.append_assoc, List.getLast?_concat] at hup ⊢
  exact ⟨_, rfl, hhtml.splitExtension_setExtension fun heq => hup (congrArg some heq)⟩

/-- A file that the path of a result leads to is at the target. -/
theorem Site.IsSource.eq_target_of_locate (hs : site.IsSource names) (hU : site.Underway files)
    (hlocate : files.locate (outputPath config (Path.joinAll config.input names)) = .ok loc)
    (hfile : files.get? loc = some (.file content)) :
    loc = site.target names ∧ (site.target names).getLast? ≠ some ".." := by
  obtain ⟨source, -, hhtml, hsource, hinit, htarget⟩ := hs.exists_name
  rw [outputPath, htarget] at hlocate
  rw [target, htarget]
  rcases hhtml.isName_setExtension hsource with hup | hname
  · -- a path that ends in `..` leads to a directory
    obtain ⟨name, -, hfileName⟩ := hU.wellFormed.exists_fileName? hlocate hfile
    rw [hup, Path.joinAll_concat, Path.fileName?,
      Path.components_join_part _ (c := .up) (by decide) rfl, List.getLast?_concat] at hfileName
    cases hfileName
  · have hall : ∀ n ∈ names.dropLast ++ [Path.setExtension "yuck" source], IsName n := by
      simpa [or_imp, forall_and] using ⟨hinit, hname⟩
    refine ⟨eq_of_locate_joinAll hU.wellFormed (hU.grows.locate site.locate_output) hall hlocate,
      ?_⟩
    rw [← List.append_assoc, List.getLast?_concat]
    exact fun heq => hname.ne_up (Option.some.inj heq)

theorem Site.Underway.translates_iff (hU : site.Underway files) (hs : site.IsSource names) :
    files.Translates (Path.joinAll config.input names) ↔
      site.start.Translates (Path.joinAll config.input names) := by
  rw [Translates, Translates, hU.readText_source hs]

end

section
variable {config : Config} {site : Site config} {files : FileTree} {result : BatchResult}
  {names : List String} {loc : Location}

/-- The end of a walk: every result that was written is in place. -/
structure Site.Finished (site : Site config) (result : BatchResult) : Prop where
  underway : site.Underway result.files
  isSource : ∀ source ∈ processed result.events,
    ∃ names, source = Path.joinAll config.input names ∧ site.IsSource names
  holds : ∀ names, site.IsSource names →
    Path.joinAll config.input names ∈ succeeded result.events → site.Holds result.files names
  sources : succeeded result.events ⊆ processed result.events
  written : result.written = (succeeded result.events).map (outputPath config)

theorem Site.Finished.wrote_iff (h : site.Finished result) :
    result.Wrote loc ↔ ∃ names, site.IsSource names ∧
      Path.joinAll config.input names ∈ succeeded result.events ∧ loc = site.target names := by
  constructor
  · rintro ⟨target, htarget, content, hfind⟩
    rw [h.written, List.mem_map] at htarget
    obtain ⟨source, hsource, rfl⟩ := htarget
    obtain ⟨names, rfl, hs⟩ := h.isSource source (h.sources hsource)
    obtain ⟨html, text, -, -, hget⟩ := (h.holds names hs hsource).text
    rw [(h.holds names hs hsource).find_target h.underway hget, Except.ok.injEq,
      Prod.mk.injEq] at hfind
    exact ⟨names, hs, hsource, hfind.1.symm⟩
  · rintro ⟨names, hs, hsource, rfl⟩
    obtain ⟨html, text, -, -, hget⟩ := (h.holds names hs hsource).text
    refine ⟨_, ?_, _, (h.holds names hs hsource).find_target h.underway hget⟩
    rw [h.written]
    exact List.mem_map_of_mem hsource

theorem Site.Finished.translates (h : site.Finished result) (hs : site.IsSource names)
    (hsource : Path.joinAll config.input names ∈ succeeded result.events) :
    site.start.Translates (Path.joinAll config.input names) := by
  obtain ⟨html, text, hread, hconvert, -⟩ := (h.holds names hs hsource).text
  exact ⟨html, text, hread, hconvert⟩

/-- A walk that has come to its end is confined. -/
theorem confined_of_finished (hf : files.WellFormed)
    (hcreate : files.createAll config.output = (site.start, .ok ()))
    (h : site.Finished result) {account : Account} (hevents : result.events = account.events)
    (hchange : ∀ loc, site.Change site.start result.files account loc) :
    Confined config files result := by
  have hadds : AddsDirectories (fun loc => ∃ path ∈ config.output :: Path.ancestors config.output,
      site.start.locate path = .ok loc) files site.start := by
    have hpaths := addsDirectories_createChain_paths hf
      (config.output :: Path.ancestors config.output)
    rwa [← createAll, hcreate] at hpaths
  have hgrows := h.underway.grows
  have hout := hgrows.locate site.locate_output
  -- a file is there from the beginning, or it is a result
  have hfile : ∀ loc content, result.files.get? loc = some (.file content) →
      files.get? loc = some (.file content) ∨ result.Wrote loc := by
    intro loc content hget
    cases hchange loc with
    | same heq => exact .inl (hadds.get?_of_file (heq ▸ hget))
    | result hs hmem htarget => exact .inr (h.wrote_iff.2 ⟨_, hs, hevents ▸ hmem, htarget⟩)
    | leading _ _ _ _ _ hafter => cases hafter.symm.trans hget
  have hkept : ∀ loc content, files.get? loc = some (.file content) →
      result.files.get? loc = some (.file content) ∨ result.Wrote loc := by
    intro loc content hget
    obtain ⟨content', hget'⟩ := (hadds.grows.trans hgrows).file loc content hget
    refine (hfile loc content' hget').imp_left fun hbefore => ?_
    rw [hget', ← hbefore, hget]
  refine ⟨hadds.grows.trans hgrows, hkept, ?_, ?_, ?_, ?_, ?_⟩
  · intro loc content hnone hget
    refine (hfile loc content hget).resolve_left fun hbefore => ?_
    rw [hnone] at hbefore
    cases hbefore
  · intro loc hwrote
    obtain ⟨names, hs, hsource, rfl⟩ := h.wrote_iff.1 hwrote
    refine ⟨hs.exists_extension_target (h.holds names hs hsource).ne_up, site.output, _, hout, ?_,
      rfl⟩
    simp [targetNames]
  · intro loc hnone hdir
    rcases hadds.get? loc with heq | ⟨-, -, path, hpath, hlocate⟩
    · cases hchange loc with
      | same heq' =>
        rw [heq', heq, hnone] at hdir
        cases hdir
      | result _ _ _ _ hafter => cases hafter.symm.trans hdir
      | leading hs hmem htranslates hleads =>
        obtain ⟨name, -, -, -, -, htarget⟩ := hs.exists_name
        obtain ⟨ps, hps, hloc⟩ := hleads
        refine .inr ⟨_, hevents ▸ hmem, (h.underway.translates_iff hs).2 htranslates, site.output,
          ps, hout, ?_, hloc⟩
        rwa [htarget, List.dropLast_concat]
    · exact .inl ⟨path, hpath, hgrows.locate hlocate⟩
  · intro source hsource hnot content hread
    obtain ⟨names, rfl, hs⟩ := h.isSource source hsource
    obtain ⟨loc, hfind⟩ := read_eq_ok_iff.1 hread
    obtain ⟨hpath, hlocate, hget⟩ := find_eq_ok_iff.1 hfind
    have hlocate' := (hadds.grows.trans hgrows).locate hlocate
    rcases hkept loc content hget with hget' | hwrote
    · exact read_eq_ok_iff.2 ⟨loc, find_eq_ok_iff.2 ⟨hpath, hlocate', hget'⟩⟩
    · -- the target of another source is another one
      obtain ⟨content', hget'⟩ := (hadds.grows.trans hgrows).file loc content hget
      obtain ⟨htarget, -⟩ := hs.eq_target_of_locate h.underway hlocate' hget'
      obtain ⟨more, hmore, hsucceeded, hother⟩ := h.wrote_iff.1 hwrote
      obtain rfl := hs.target_injective hmore (htarget.symm.trans hother)
      exact absurd ((h.underway.translates_iff hs).2 (h.translates hs hsucceeded)) hnot
  · intro loc content hhtml
    refine ⟨fun hget => hadds.get?_of_file (h.underway.source loc content hhtml hget),
      fun hget => ?_⟩
    obtain ⟨content', hget'⟩ := (hadds.grows.trans hgrows).file loc content hget
    rw [hget', ← hget, hadds.get?_of_file (h.underway.source loc content' hhtml hget')]

end

/-- The conversion of a file that cannot be read or translated changes no file. -/
theorem files_convertFile_of_not_translates (config : Config) {path : String} (p : Progress)
    (h : ¬ p.files.Translates path) : ((convertFile config path).run p).2.files = p.files := by
  obtain ⟨files', account, hyields, hstep⟩ := exists_fileStep config path p.files
  rw [hyields p rfl, Progress.files_add]
  cases hstep with
  | unreadable | untranslatable => rfl
  | uncreatable hread hconvert | unwritable hread hconvert | converted hread hconvert =>
    exact absurd ⟨_, _, hread, hconvert⟩ h

/-- **A run touches nothing but its targets**, whether it comes to a summary or not
    (`Confined`), and the conversion of a file that cannot be read or translated changes no file
    at all. -/
theorem confined_runBatch {files : FileTree} (hf : files.WellFormed) (config : Config) :
    Confined config files (runBatch config files) ∧
    ∀ (path : String) (p : Progress), ¬ p.files.Translates path →
      ((convertFile config path).run p).2.files = p.files := by
  refine ⟨?_, fun path p h => files_convertFile_of_not_translates config p h⟩
  have hpaths := addsDirectories_createChain_paths hf
    (config.output :: Path.ancestors config.output)
  rw [← createAll] at hpaths
  rcases hcreate : files.createAll config.output with ⟨made, created⟩
  rw [hcreate] at hpaths
  cases created with
  | error err =>
    rw [runBatch, hcreate]
    exact confined_of_addsDirectories hpaths rfl rfl
  | ok =>
    cases hfind : made.find config.input with
    | error err =>
      rw [runBatch_of_find_eq_error hcreate hfind]
      exact confined_of_addsDirectories hpaths rfl rfl
    | ok found =>
      obtain ⟨loc, e⟩ := found
      obtain ⟨site, rfl, rfl⟩ := exists_site hf hcreate hfind
      have hget := (find_eq_ok_iff.1 hfind).2.2
      have hpresent := site.present_input hget
      obtain ⟨account, rels, hwalk, hevents, houtcome, hprocessed, hsorted, hmem⟩ :=
        exists_sources_runBatch site hcreate hget
      obtain ⟨hU, -, hchange⟩ :=
        hwalk.composed (composes_change site) site.underway_start hpresent
      obtain ⟨-, -, hbalanced⟩ :=
        hwalk.composed (composes_balanced site) site.underway_start hpresent
      obtain ⟨-, -, hdelivers⟩ :=
        hwalk.composed (composes_delivers site) site.underway_start hpresent
      have hnodup := nodup_processed hprocessed hsorted fun rel hrel => ((hmem rel).1 hrel).2.1
      refine confined_of_finished hf hcreate ⟨hU, ?_, ?_, ?_, ?_⟩ hevents hchange
      · rw [hevents]
        exact hdelivers.isSource
      · rw [hevents]
        exact hdelivers.delivered hnodup
      · rw [hevents]
        exact hdelivers.succeeded_subset
      · rw [hevents, BatchResult.written, houtcome]
        exact hbalanced.written

/-- The second file on the shelf is no text: its conversion changes nothing. -/
theorem confined_runBatch_shelf :
    shelf.WellFormed ∧ Confined ⟨"in", "in/d"⟩ shelf (runBatch ⟨"in", "in/d"⟩ shelf) ∧
    ¬ shelf.Translates "in/d/b.html" ∧
    ((convertFile ⟨"in", "in/d"⟩ "in/d/b.html").run { files := shelf }).2.files = shelf := by
  have hnot : ¬ shelf.Translates "in/d/b.html" := by
    rintro ⟨html, text, hread, -⟩
    have herror : shelf.readText "in/d/b.html" = .error .notText := rfl
    cases herror.symm.trans hread
  obtain ⟨hconfined, hsame⟩ := confined_runBatch wellFormed_shelf ⟨"in", "in/d"⟩
  exact ⟨wellFormed_shelf, hconfined, hnot, hsame "in/d/b.html" { files := shelf } hnot⟩

end WidgetMarkup
