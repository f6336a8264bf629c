/-
  Files are converted independently of each other.

  Two runs start from files that differ in the content of one source.  Whether that source comes
  to a result decides about the result and the directories around it, and so about the files that
  the runs find afterwards.

  * `Site.Agree` says that the files of the two runs differ there at most.  The conversion of any
    other source gives the same account in both (`FileStep.abreast`), because nothing that differs
    stands in its way: its result is somewhere else, and the directories that it needs are not
    named like results.
  * `isolated_runBatch` says what this means for two runs.
-/
import WidgetMarkup.Proofs.Alike
import WidgetMarkup.Proofs.FileEvents
import WidgetMarkup.Proofs.Placement

namespace WidgetMarkup

open FileTree

/-! ## Where the result of one file goes, and those of others -/

section
variable {config : Config} {site : Site config} {names rel : List String}

/-- No directory on the way from the input to a source has the extension `yuck`. -/
def Site.IsPlain (site : Site config) : Prop :=
  ∀ names, site.IsSource names → ∀ name ∈ names.dropLast,
    (Path.splitExtension name).2 ≠ some "yuck"

/-- The result of a source does not stand in the way of others. -/
theorem Site.IsPlain.not_leads_target (hplain : site.IsPlain) (hs : site.IsSource names)
    (hr : site.IsSource rel) : ¬ site.Leads names (site.target rel) := by
  rintro ⟨ps, hps, heq⟩
  obtain ⟨name, -, hhtml, -, -, htarget⟩ := hr.exists_name
  obtain ⟨-, -, -, -, hinit, -⟩ := hs.exists_name
  rw [target, htarget, List.append_cancel_left_eq] at heq
  have hmem : Path.setExtension "yuck" name ∈ names.dropLast :=
    hps.subset (heq ▸ List.mem_append_right _ List.mem_cons_self)
  exact hplain names hs _ hmem (hhtml.splitExtension_setExtension (hinit _ hmem).ne_up)

/-- The target of a source is not named like a source. -/
theorem Site.IsSource.target_ne (hs : site.IsSource names) (hr : site.IsSource rel) :
    site.target names ≠ site.input ++ rel := by
  intro heq
  obtain ⟨name, -, hhtml, -, -, htarget⟩ := hs.exists_name
  obtain ⟨⟨last, hlast, hlasthtml⟩, -⟩ := hr
  rw [← heq, target, htarget, ← List.append_assoc, List.getLast?_concat, Option.some.injEq]
    at hlast
  exact hhtml.not_isHtmlName (hlast ▸ hlasthtml)

/-! ## The files of two runs -/

/-- Files of two runs that differ at most where a source is, where its result is and where
    directories on the way to its result are. -/
def Site.Agree (site : Site config) (rel : List String) (files files' : FileTree) : Prop :=
  ∀ loc, files'.get? loc = files.get? loc ∨ loc = site.input ++ rel ∨ loc = site.target rel ∨
    site.Leads rel loc ∧ (∀ content, files.get? loc ≠ some (.file content)) ∧
      ∀ content, files'.get? loc ≠ some (.file content)

/-- Other sources are read as in the first run. -/
theorem Site.IsSource.readText_eq {start : FileTree} (hs : site.IsSource names)
    (halike : Alike (site.input ++ rel) site.start start) (hne : names ≠ rel) :
    start.readText (Path.joinAll config.input names) =
      site.start.readText (Path.joinAll config.input names) := by
  obtain ⟨-, content, hfile⟩ := hs
  have hother : start.get? (site.input ++ names) = site.start.get? (site.input ++ names) :=
    halike.other _ fun heq => hne (List.append_cancel_left heq)
  have hfind : start.find (Path.joinAll config.input names) =
      site.start.find (Path.joinAll config.input names) := by
    rw [find, find, halike.locate, locate_joinAll site.wellFormed site.locate_input hfile]
    dsimp only
    rw [hother]
  rw [readText, readText, FileTree.read, FileTree.read, hfind]

/-- Where the second run takes place. -/
def Site.twin (site : Site config) {start : FileTree} (hf : start.WellFormed)
    (halike : Alike (site.input ++ rel) site.start start) : Site config where
  start := start
  input := site.input
  output := site.output
  wellFormed := hf
  pathError?_input := site.pathError?_input
  locate_input := (halike.locate _).trans site.locate_input
  locate_output := (halike.locate _).trans site.locate_output
  get?_output := halike.get?_directory_iff.2 site.get?_output

/-- The files of two runs, side by side. -/
structure Site.Abreast (site : Site config) {start : FileTree} (hf : start.WellFormed)
    (halike : Alike (site.input ++ rel) site.start start) (files files' : FileTree) : Prop where
  first : site.Underway files
  second : (site.twin hf halike).Underway files'
  agree : site.Agree rel files files'

section
variable {start : FileTree} {hf : start.WellFormed}
  {halike : Alike (site.input ++ rel) site.start start}

theorem Site.isSource_twin : (site.twin hf halike).IsSource names ↔ site.IsSource names := by
  refine and_congr_right fun _ => ?_
  rcases halike.cases (site.input ++ names) with heq | ⟨content, content', hfile, hfile'⟩
  · rw [← heq]
    rfl
  · exact ⟨fun _ => ⟨content, hfile⟩, fun _ => ⟨content', hfile'⟩⟩

/-- When the walks start, only the source is different. -/
theorem Site.abreast_start : site.Abreast hf halike site.start start where
  first := site.underway_start
  second := (site.twin hf halike).underway_start
  agree := by
    intro loc
    by_cases hloc : loc = site.input ++ rel
    · exact .inr (.inl hloc)
    · exact .inl (halike.other loc hloc)

variable {files files' after after' : FileTree} {account account' : Account}

/-- Files are in the same places, but for the result. -/
theorem Site.Abreast.file_iff (hA : site.Abreast hf halike files files') (hr : site.IsSource rel)
    {loc : Location} (hloc : loc ≠ site.target rel) :
    (∃ content, files'.get? loc = some (.file content)) ↔
      ∃ content, files.get? loc = some (.file content) := by
  rcases hA.agree loc with heq | rfl | htarget | ⟨-, hnot, hnot'⟩
  · rw [heq]
  · obtain ⟨hname, content, hfile⟩ := hr
    obtain ⟨content', hfile'⟩ := halike.file'
    exact ⟨fun _ => ⟨content, hA.first.get?_source hname hfile⟩,
      fun _ => ⟨content', hA.second.get?_source hname hfile'⟩⟩
  · exact absurd htarget hloc
  · exact ⟨fun ⟨content, hfile⟩ => absurd hfile (hnot' content),
      fun ⟨content, hfile⟩ => absurd hfile (hnot content)⟩

/-! ## One conversion -/

section
variable (hA : site.Abreast hf halike files files') (hr : site.IsSource rel)
  (hplain : site.IsPlain) (hs : site.IsSource names)
include hA hr hplain hs

/-- What stops the creation of directories for another source stops it in both runs. -/
theorem Site.Abreast.creation?_eq :
    (site.twin hf halike).creation? files' names = site.creation? files names := by
  have hfiles : ∀ ps, ps <+: names.dropLast →
      ((∃ content, files'.get? (site.output ++ ps) = some (.file content)) ↔
        ∃ content, files.get? (site.output ++ ps) = some (.file content)) := by
    intro ps hps
    refine hA.file_iff hr ?_
    intro heq
    exact hplain.not_leads_target hs hr ⟨ps, hps, heq.symm⟩
  have hobstacle : files'.obstacle? site.output names.dropLast =
      files.obstacle? site.output names.dropLast := by
    refine Option.ext fun e => ⟨fun h => ?_, fun h => ?_⟩
    · exact hA.second.wellFormed.obstacle?_eq hA.first.wellFormed
        (fun ps content hps hfile => (hfiles ps hps).1 ⟨content, hfile⟩) h
    · exact hA.first.wellFormed.obstacle?_eq hA.second.wellFormed
        (fun ps content hps hfile => (hfiles ps hps).2 ⟨content, hfile⟩) h
  rw [creation?, creation?]
  exact congrArg _ hobstacle

variable (hne : names ≠ rel)
include hne

/-- At the target of another source there is the same in both runs. -/
theorem Site.Abreast.get?_target :
    files'.get? (site.target names) = files.get? (site.target names) := by
  by_cases hup : (site.target names).getLast? = some ".."
  · have hnone : ∀ {files : FileTree}, files.WellFormed →
        files.get? (site.target names) = none := by
      intro files hf
      by_contra hsome
      obtain ⟨e, he⟩ := Option.ne_none_iff_exists'.1 hsome
      exact (hf.isName he ".." (List.mem_of_getLast? hup)).ne_up rfl
    rw [hnone hA.first.wellFormed, hnone hA.second.wellFormed]
  · rcases hA.agree (site.target names) with heq | hsource | htarget | ⟨hleads, -⟩
    · exact heq
    · exact absurd hsource (hs.target_ne hr)
    · exact absurd (hs.target_injective hr htarget) hne
    · exact absurd hleads (hplain.not_leads_target hr hs)

/-- What stops the writing of another result stops it in both runs. -/
theorem Site.Abreast.writing?_eq :
    (site.twin hf halike).writing? files' names = site.writing? files names := by
  rw [writing?, writing?, ← hA.get?_target hr hplain hs hne]
  rfl

/-- **The conversion of another file gives the same account in both runs**, and their files
    differ as little as before. -/
theorem FileStep.abreast (hopen : config.output = "" ∨ pathError? config.output = none)
    (h : FileStep config (Path.joinAll config.input names) files after account)
    (h' : FileStep config (Path.joinAll config.input names) files' after' account') :
    account' = account ∧ site.Abreast hf halike after after' := by
  have hs' : (site.twin hf halike).IsSource names := Site.isSource_twin.2 hs
  suffices hagree : account' = account ∧ site.Agree rel after after' from
    ⟨hagree.1, (h.underway hs hA.first).1, (h'.underway hs' hA.second).1, hagree.2⟩
  have hsame : files'.readText (Path.joinAll config.input names) =
      files.readText (Path.joinAll config.input names) :=
    (hA.second.readText_source hs').trans
      ((hs.readText_eq halike hne).trans (hA.first.readText_source hs).symm)
  have hcreation' := hA.creation?_eq hr hplain hs
  have hwriting' := hA.writing?_eq hr hplain hs hne
  cases hread : files.readText (Path.joinAll config.input names) with
  | error e =>
    obtain ⟨rfl, rfl⟩ := h.of_unreadable hread
    obtain ⟨rfl, rfl⟩ := h'.of_unreadable (hsame.trans hread)
    exact ⟨rfl, hA.agree⟩
  | ok html =>
    have hread' := hsame.trans hread
    cases hconvert : (convert html).1 with
    | error e =>
      obtain ⟨rfl, rfl⟩ := h.of_untranslatable hread hconvert
      obtain ⟨rfl, rfl⟩ := h'.of_untranslatable hread' hconvert
      exact ⟨rfl, hA.agree⟩
    | ok text =>
      cases hcreation : site.creation? files names with
      | some e =>
        obtain ⟨rfl, rfl⟩ := h.of_creation hs hA.first hopen hread hconvert hcreation
        obtain ⟨rfl, rfl⟩ := h'.of_creation hs' hA.second hopen hread' hconvert
          (hcreation'.trans hcreation)
        exact ⟨rfl, hA.agree⟩
      | none =>
        obtain ⟨heffect, haccount⟩ := h.of_clear hs hA.first hopen hread hconvert hcreation
        obtain ⟨heffect', haccount'⟩ := h'.of_clear hs' hA.second hopen hread' hconvert
          (hcreation'.trans hcreation)
        refine ⟨by rw [haccount', haccount, hwriting'], fun loc => ?_⟩
        by_cases hleads : site.Leads names loc
        · exact .inl ((heffect'.leading loc hleads).trans (heffect.leading loc hleads).symm)
        by_cases htarget : site.writing? files names = none ∧ loc = site.target names
        · obtain ⟨hw, rfl⟩ := htarget
          exact .inl ((heffect'.target (hwriting'.trans hw)).trans (heffect.target hw).symm)
        · have hkept := heffect.other loc hleads fun hw heq => htarget ⟨hw, heq⟩
          have hkept' := heffect'.other loc hleads fun hw heq =>
            htarget ⟨hwriting'.symm.trans hw, heq⟩
          rw [hkept, hkept']
          exact hA.agree loc

end

/-- What a conversion changes: it adds directories on the way to the result, and the result. -/
theorem FileStep.get?_cases
    (h : FileStep config (Path.joinAll config.input rel) files after account)
    (hr : site.IsSource rel) (hU : site.Underway files) (loc : Location) :
    after.get? loc = files.get? loc ∨ loc = site.target rel ∨
      site.Leads rel loc ∧ files.get? loc = none ∧ after.get? loc = some .directory := by
  obtain ⟨made, hadds, rfl | ⟨content, hwrite⟩⟩ := h.exists_addsDirectories hr hU
  · exact (hadds.get? loc).imp_right fun ⟨hnone, hdir, hleads⟩ => .inr ⟨hleads, hnone, hdir⟩
  · obtain ⟨dir, name, htarget, -, -, -, -, -, -, rfl⟩ :=
      hr.write_eq_ok (hr.underway_made hU hadds) hwrite
    by_cases hloc : loc = site.target rel
    · exact .inr (.inl hloc)
    rw [get?_put made (by simp), if_neg (htarget ▸ hloc)]
    exact (hadds.get? loc).imp_right fun ⟨hnone, hdir, hleads⟩ => .inr ⟨hleads, hnone, hdir⟩

/-- The conversion of the one file makes a difference only where it may. -/
theorem FileStep.abreast_self
    (h : FileStep config (Path.joinAll config.input rel) files after account)
    (h' : FileStep config (Path.joinAll config.input rel) files' after' account')
    (hr : site.IsSource rel) (hA : site.Abreast hf halike files files') :
    site.Abreast hf halike after after' := by
  have hr' : (site.twin hf halike).IsSource rel := Site.isSource_twin.2 hr
  refine ⟨(h.underway hr hA.first).1, (h'.underway hr' hA.second).1, fun loc => ?_⟩
  by_cases htarget : loc = site.target rel
  · exact .inr (.inr (.inl htarget))
  have hcases := (h.get?_cases hr hA.first loc).imp_right (·.resolve_left htarget)
  have hcases' := (h'.get?_cases hr' hA.second loc).imp_right (·.resolve_left htarget)
  -- where there was no file on the way to the result, there is none afterwards
  have hway : site.Leads rel loc → (∀ content, files.get? loc ≠ some (.file content)) →
      (∀ content, files'.get? loc ≠ some (.file content)) →
      site.Leads rel loc ∧ (∀ content, after.get? loc ≠ some (.file content)) ∧
        ∀ content, after'.get? loc ≠ some (.file content) := by
    intro hleads hnot hnot'
    refine ⟨hleads, ?_, ?_⟩
    · rcases hcases with hkept | ⟨-, -, hdir⟩
      · rwa [hkept]
      · simp [hdir]
    · rcases hcases' with hkept | ⟨-, -, hdir⟩
      · rwa [hkept]
      · simp [hdir]
  rcases hA.agree loc with heq | hself | htarget | ⟨hleads, hnot, hnot'⟩
  · rcases hcases with hkept | ⟨hleads, hnone, -⟩
    · rcases hcases' with hkept' | ⟨hleads, hnone, -⟩
      · exact .inl (by rw [hkept, hkept', heq])
      · exact .inr (.inr (.inr (hway hleads (by simp [← heq, hnone]) (by simp [hnone]))))
    · exact .inr (.inr (.inr (hway hleads (by simp [hnone]) (by simp [heq, hnone]))))
  · exact .inr (.inl hself)
  · exact .inr (.inr (.inl htarget))
  · exact .inr (.inr (.inr (hway hleads hnot hnot')))

/-! ## Two walks -/

/-- The files on a trail are a trail of their own. -/
theorem Trail.conversions {trail : List (Stop × Account)} (h : Trail config trail files files') :
    Trail config (trail.filter (!·.1.isDirectory)) files files' := by
  induction h with
  | done files => exact .done files
  | convert hfile hstep hrest ih =>
    rw [List.filter_cons_of_pos (by simp [hfile])]
    exact .convert hfile hstep ih
  | unlisted hdir hrest ih =>
    rw [List.filter_cons_of_neg (by simp [hdir])]
    exact ih

/-- **Two walks over the same files do the same with all of them but one.** -/
theorem Trail.abreast {last last' : FileTree} {trail trail' : List (Stop × Account)}
    (h : Trail config trail files last) (h' : Trail config trail' files' last')
    (hfiles : ∀ x ∈ trail, x.1.isDirectory = false)
    (hfiles' : ∀ x ∈ trail', x.1.isDirectory = false)
    (hnames : trail'.map (·.1.names) = trail.map (·.1.names))
    (hsources : ∀ x ∈ trail, site.IsSource x.1.names)
    (hr : site.IsSource rel) (hplain : site.IsPlain)
    (hopen : config.output = "" ∨ pathError? config.output = none)
    (hA : site.Abreast hf halike files files') :
    site.Abreast hf halike last last' ∧
      trail'.filter (·.1.names ≠ rel) = trail.filter (·.1.names ≠ rel) := by
  induction h generalizing trail' files' with
  | done files =>
    obtain rfl := List.map_eq_nil_iff.1 hnames
    cases h'
    exact ⟨hA, rfl⟩
  | @convert stop first trail files mid last hfile hstep hrest ih =>
    obtain ⟨hs, hothers⟩ := List.forall_mem_cons.1 hsources
    cases h' with
    | done => cases hnames
    | unlisted hdir => cases hdir.symm.trans (hfiles' _ List.mem_cons_self)
    | @convert stop' first' trail' _ mid' _ hfile' hstep' hrest' =>
      rw [List.map_cons, List.map_cons, List.cons.injEq] at hnames
      obtain ⟨hname, hnames⟩ := hnames
      obtain rfl : stop' = stop := by
        cases stop
        cases stop'
        simp_all
      have ih := ih hrest' (List.forall_mem_cons.1 hfiles).2 (List.forall_mem_cons.1 hfiles').2
        hnames hothers
      by_cases hself : stop'.names = rel
      · subst hself
        obtain ⟨hlast, hrest⟩ := ih (hstep.abreast_self hstep' hr hA)
        refine ⟨hlast, ?_⟩
        rw [List.filter_cons_of_neg (by simp), List.filter_cons_of_neg (by simp), hrest]
      · obtain ⟨rfl, hmid⟩ := FileStep.abreast hA hr hplain hs hself hopen hstep hstep'
        obtain ⟨hlast, hrest⟩ := ih hmid
        refine ⟨hlast, ?_⟩
        rw [List.filter_cons_of_pos (by simpa using hself),
          List.filter_cons_of_pos (by simpa using hself), hrest]
  | unlisted hdir => cases hdir.symm.trans (hfiles _ List.mem_cons_self)

end

end

/-! ## Two runs -/

/-- What is the same in two runs whose files differ in the content of one file. -/
structure Isolated (config : Config) (place : Location) (path : String)
    (first second : BatchResult) : Prop where
  /-- The output directory can be created in both runs, or the error is the same. -/
  error_iff : ∀ f, second.outcome = .error f ↔ first.outcome = .error f
  processed_eq : processed second.events = processed first.events
  /-- With any other file the same happens: what is printed of it, and the line that announces
      its result. -/
  eventsOf_eq : ∀ other ∈ processed first.events, other ≠ path →
    eventsOf other second.events = eventsOf other first.events
  succeeded_iff : ∀ other, other ≠ path →
    (other ∈ succeeded second.events ↔ other ∈ succeeded first.events)
  /-- Where the result of any other file goes, there is the same. -/
  result_eq : ∀ out, first.files.locate config.output = .ok out →
    ∀ other ∈ processed first.events, other ≠ path →
      second.files.get? (out ++ targetNames config other) =
        first.files.get? (out ++ targetNames config other)
  current_eq : second.files.current = first.files.current
  /-- There is no other difference than in the file, in its result and in directories on the way
      to its result. -/
  get?_cases : ∀ loc, second.files.get? loc = first.files.get? loc ∨ loc = place ∨
    ∃ out, first.files.locate config.output = .ok out ∧
      (loc = out ++ targetNames config path ∨
        ∃ ps, ps <+: (targetNames config path).dropLast ∧ loc = out ++ ps ∧
          (∀ content, first.files.get? loc ≠ some (.file content)) ∧
          ∀ content, second.files.get? loc ≠ some (.file content))

theorem isolated_of_alike {config : Config} {place : Location} {path : String}
    {made made' : FileTree} (halike : Alike place made made') {events : List Event}
    (hnone : processed events = []) (outcome : Except Failure Summary) :
    Isolated config place path ⟨made, events, outcome⟩ ⟨made', events, outcome⟩ where
  error_iff := fun _ => Iff.rfl
  processed_eq := rfl
  eventsOf_eq := fun _ _ _ => rfl
  succeeded_iff := fun _ _ => Iff.rfl
  result_eq := by
    intro _ _ other hother
    rw [hnone] at hother
    cases hother
  current_eq := halike.current
  get?_cases := by
    intro loc
    by_cases hloc : loc = place
    · exact .inr (.inl hloc)
    · exact .inl (halike.other loc hloc)

section
variable {config : Config} {site : Site config} {rel : List String} {start last last' : FileTree}
  {hf : start.WellFormed} {halike : Alike (site.input ++ rel) site.start start}
  {account account' : Account} {trail trail' : List (Stop × Account)} {isDirectory : Bool}

/-- Two runs convert the same files. -/
theorem Site.Follows.sources_twin
    (h : site.Follows [⟨[], isDirectory⟩] site.start last account trail)
    (h' : (site.twin hf halike).Follows [⟨[], isDirectory⟩] start last' account' trail') :
    sourcesOf trail' = sourcesOf trail := by
  refine eq_of_mem_iff h'.sorted_sources h.sorted_sources fun names => ?_
  rw [h.mem_sources_iff, h'.mem_sources_iff]
  simp only [Reaches, isSource_twin]

section
variable (h : site.Follows [⟨[], isDirectory⟩] site.start last account trail)
  (h' : (site.twin hf halike).Follows [⟨[], isDirectory⟩] start last' account' trail')
  (hr : site.IsSource rel) (hplain : site.IsPlain)
  (hopen : config.output = "" ∨ pathError? config.output = none)
include h h' hr hplain hopen

/-- Two runs do the same with all files but one. -/
theorem Site.Follows.abreast :
    site.Abreast hf halike last last' ∧ ∀ x : Stop × Account, x.1.isDirectory = false →
      x.1.names ≠ rel → (x ∈ trail' ↔ x ∈ trail) := by
  have hfiles : ∀ trail : List (Stop × Account),
      ∀ x ∈ trail.filter (!·.1.isDirectory), x.1.isDirectory = false := by
    intro trail x hx
    simpa using (List.mem_filter.1 hx).2
  obtain ⟨hlast, hothers⟩ := h.isTrail.conversions.abreast h'.isTrail.conversions (hfiles trail)
    (hfiles trail') (h.sources_twin h')
    (fun x hx => h.isSource x (List.mem_of_mem_filter hx) (hfiles trail x hx)) hr hplain hopen
    site.abreast_start
  refine ⟨hlast, fun x hfile hne => ?_⟩
  have hmem := congrArg (x ∈ ·) hothers
  simpa [hfile, hne] using hmem

theorem isolated_of_follows :
    Isolated config (site.input ++ rel) (Path.joinAll config.input rel)
      ⟨last, account.events, .ok ⟨account.written, account.failed⟩⟩
      ⟨last', account'.events, .ok ⟨account'.written, account'.failed⟩⟩ := by
  obtain ⟨hA, hothers⟩ := h.abreast h' hr hplain hopen
  have houtput : last.locate config.output = .ok site.output :=
    hA.first.grows.locate site.locate_output
  obtain ⟨name, -, -, -, -, htarget⟩ := hr.exists_name
  refine ⟨fun f => ⟨nofun, nofun⟩, ?_, ?_, ?_, ?_, ?_, ?_⟩
  · rw [h'.processed_eq, h.processed_eq, h.sources_twin h']
  · intro other hother hne
    rw [h.processed_eq] at hother
    obtain ⟨names, hnames, rfl⟩ := List.mem_map.1 hother
    obtain ⟨first, hfirst⟩ := mem_sourcesOf.1 hnames
    have hsecond := (hothers _ rfl fun heq => hne (congrArg _ heq)).2 hfirst
    exact (List.cons.inj ((h'.eventsOf_eq hsecond rfl).symm.trans (h.eventsOf_eq hfirst rfl))).2
  · intro other hne
    rw [h.mem_succeeded_iff, h'.mem_succeeded_iff]
    refine exists_congr fun x => ?_
    constructor
    · rintro ⟨hx, hfile, rfl, hsource⟩
      exact ⟨(hothers x hfile fun heq => hne (congrArg _ heq)).1 hx, hfile, rfl, hsource⟩
    · rintro ⟨hx, hfile, rfl, hsource⟩
      exact ⟨(hothers x hfile fun heq => hne (congrArg _ heq)).2 hx, hfile, rfl, hsource⟩
  · intro out hout other hother hne
    obtain rfl : site.output = out := Except.ok.inj (houtput.symm.trans hout)
    rw [h.processed_eq] at hother
    obtain ⟨names, hnames, rfl⟩ := List.mem_map.1 hother
    obtain ⟨first, hfirst⟩ := mem_sourcesOf.1 hnames
    exact hA.get?_target hr hplain (h.isSource _ hfirst rfl)
      fun heq => hne (congrArg _ heq)
  · exact hA.second.grows.current.trans (halike.current.trans hA.first.grows.current.symm)
  · intro loc
    rcases hA.agree loc with heq | hself | hresult | ⟨⟨ps, hps, rfl⟩, hnot, hnot'⟩
    · exact .inl heq
    · exact .inr (.inl hself)
    · exact .inr (.inr ⟨_, houtput, .inl hresult⟩)
    · refine .inr (.inr ⟨_, houtput, .inr ⟨ps, ?_, rfl, hnot, hnot'⟩⟩)
      rwa [htarget, List.dropLast_concat]

end

end

section
variable {config : Config} {files : FileTree} {loc : Location} {rel : List String}
  {content : ByteArray}

/-- Directories on the way to sources were there before the run. -/
theorem Site.isPlain {site : Site config} (hf : files.WellFormed)
    (hcreate : files.createAll config.output = (site.start, .ok ()))
    (hplain : ∀ names name, files.get? (site.input ++ names ++ [name]) = some .directory →
      (Path.splitExtension name).2 ≠ some "yuck") : site.IsPlain := by
  rintro names ⟨-, content, hfile⟩ name hname
  have hadds := addsDirectories_createAll hf config.output
  rw [hcreate] at hadds
  have hfile := hadds.get?_of_file hfile
  obtain ⟨xs, ys, hsplit⟩ := List.append_of_mem hname
  obtain ⟨last, hlast⟩ : ∃ last, names = names.dropLast ++ [last] := by
    have hne : names ≠ [] := by
      rintro rfl
      cases hname
    exact ⟨_, (List.dropLast_append_getLast hne).symm⟩
  have hbelow : files.get? (site.input ++ xs ++ [name] ++ (ys ++ [last])) =
      some (.file content) := by
    rw [hlast, hsplit] at hfile
    simpa using hfile
  exact hplain xs name (hf.get?_around (by simp) hbelow)

theorem isolated_of_site {site : Site config} {files' made : FileTree} {e : Entry}
    (hf : made.WellFormed) (halike : Alike (site.input ++ rel) site.start made)
    (hcreate : files.createAll config.output = (site.start, .ok ()))
    (hcreate' : files'.createAll config.output = (made, .ok ()))
    (hget : site.start.get? site.input = some e) (hr : site.IsSource rel)
    (hplain : site.IsPlain) :
    Isolated config (site.input ++ rel) (Path.joinAll config.input rel) (runBatch config files)
      (runBatch config files') := by
  obtain ⟨account, trail, -, hevents, houtcome, htrail⟩ :=
    exists_trail_runBatch site hcreate hget
  obtain ⟨e', hget', hkind⟩ : ∃ e', made.get? site.input = some e' ∧
      e'.isDirectory = e.isDirectory := by
    rcases halike.cases site.input with heq | ⟨content, content', hfile, hfile'⟩
    · exact ⟨e, heq.trans hget, rfl⟩
    · obtain rfl := Option.some.inj (hget.symm.trans hfile)
      exact ⟨_, hfile', rfl⟩
  obtain ⟨account', trail', -, hevents', houtcome', htrail'⟩ :=
    exists_trail_runBatch (site.twin hf halike) hcreate' hget'
  rw [hkind] at htrail'
  have hisolated := isolated_of_follows htrail htrail' hr hplain
    (isOpen_of_createAll (by rw [hcreate]))
  rwa [← hevents, ← houtcome, ← hevents', ← houtcome'] at hisolated

/-- **Files do not affect each other.**  If no directory below the input has the extension `yuck`,
    then two runs from files that differ in the content of one HTML file at or below the input
    convert the same files in the same order, the same happens with all files but this one, and
    the files differ in the end at most in this one, in its result and in directories on the way to
    its result. -/
theorem isolated_runBatch (hf : files.WellFormed)
    (hlocate : (files.createAll config.output).1.locate config.input = .ok loc)
    (hhtml : HasHtmlName (loc ++ rel)) (hfile : files.get? (loc ++ rel) = some (.file content))
    (hplain : ∀ names name, files.get? (loc ++ names ++ [name]) = some .directory →
      (Path.splitExtension name).2 ≠ some "yuck") (content' : ByteArray) :
    Isolated config (loc ++ rel) (Path.joinAll config.input rel) (runBatch config files)
      (runBatch config (files.put (loc ++ rel) (.file content'))) := by
  have hne : loc ++ rel ≠ [] := by
    obtain ⟨name, hlast, -⟩ := hhtml
    exact List.ne_nil_of_mem (List.mem_of_getLast? hlast)
  obtain ⟨hf', halike⟩ := hf.put_file hne hfile content'
  generalize files.put (loc ++ rel) (.file content') = files' at hf' halike ⊢
  have hadds := addsDirectories_createAll hf config.output
  have hadds' := addsDirectories_createAll hf' config.output
  obtain ⟨hmade, hcreated⟩ := halike.createAll config.output
  rcases hcreate : files.createAll config.output with ⟨made, created⟩
  rcases hcreate' : files'.createAll config.output with ⟨made', created'⟩
  rw [hcreate] at hlocate hmade hcreated hadds
  rw [hcreate'] at hmade hcreated hadds'
  obtain rfl : created' = created := hcreated
  cases created' with
  | error err =>
    rw [runBatch, runBatch, hcreate, hcreate']
    exact isolated_of_alike hmade rfl _
  | ok =>
    cases hfind : made.find config.input with
    | error err =>
      rw [runBatch_of_find_eq_error hcreate hfind,
        runBatch_of_find_eq_error hcreate' ((hmade.find_eq_error_iff _ _).2 hfind)]
      exact isolated_of_alike hmade rfl _
    | ok found =>
      obtain ⟨loc', e⟩ := found
      obtain ⟨-, hlocate', hget⟩ := find_eq_ok_iff.1 hfind
      obtain rfl : loc = loc' := Except.ok.inj (hlocate.symm.trans hlocate')
      obtain ⟨site, rfl, rfl⟩ := exists_site hf hcreate hfind
      exact isolated_of_site hadds'.wellFormed hmade hcreate hcreate' hget
        ⟨hhtml, content, hadds.get?_of_some hfile⟩ (Site.isPlain hf hcreate hplain)

end

/-- The second file on the shelf gets another content, and the first one is not affected. -/
theorem isolated_runBatch_shelf :
    shelf.WellFormed ∧
    (shelf.createAll "in/d").1.locate "in" = .ok ["in"] ∧
    HasHtmlName ["in", "d", "b.html"] ∧
    shelf.get? ["in", "d", "b.html"] = some (.file ⟨#[255]⟩) ∧
    (∀ names name, shelf.get? (["in"] ++ names ++ [name]) = some .directory →
      (Path.splitExtension name).2 ≠ some "yuck") ∧
    Isolated ⟨"in", "in/d"⟩ ["in", "d", "b.html"] (Path.joinAll "in" ["d", "b.html"])
      (runBatch ⟨"in", "in/d"⟩ shelf)
      (runBatch ⟨"in", "in/d"⟩
        (shelf.put ["in", "d", "b.html"] (.file "<widget name=v>2</widget>".toUTF8))) := by
  have hlocate : (shelf.createAll (Config.mk "in" "in/d").output).1.locate
      (Config.mk "in" "in/d").input = .ok ["in"] := rfl
  have hhtml : HasHtmlName (["in"] ++ ["d", "b.html"]) := ⟨"b.html", rfl, by decide⟩
  have hplain : ∀ names name, shelf.get? (["in"] ++ names ++ [name]) = some .directory →
      (Path.splitExtension name).2 ≠ some "yuck" := by
    have hall : ∀ x ∈ shelf.entries, ∀ name ∈ x.1, (Path.splitExtension name).2 ≠ some "yuck" := by
      decide
    intro names name hdir
    exact hall _ (wellFormed_shelf.mem_entries_iff.2 ⟨by simp, hdir⟩) name (by simp)
  exact ⟨wellFormed_shelf, hlocate, hhtml, rfl, hplain,
    isolated_runBatch wellFormed_shelf hlocate hhtml rfl hplain _⟩

end WidgetMarkup
