/-
  What stands in the way of a result.

  Whether the result of a source gets to its place depends on little: on the lengths of two
  paths, on files that stand where directories should be, and on a directory that stands where
  the result should be.

  * `Site.creation?` is why the directories around the result of a source cannot be created,
    `Site.writing?` why the result cannot be written into them.
  * They determine the account of the conversion and the files afterwards: if the directories
    cannot be created, nothing changes (`FileStep.of_creation`); if they can, they are there, and
    so is the result unless it cannot be written (`FileStep.of_clear`).
-/
import WidgetMarkup.Proofs.Obstacles

namespace WidgetMarkup

open FileTree

/-! ## Names of results -/

theorem Path.IsHtmlName.isName_setExtension {name : String} (h : IsHtmlName name)
    (hname : IsName name) :
    setExtension "yuck" name = ".." ∨ IsName (setExtension "yuck" name) := by
  rcases h.setExtension_cases with hup | ⟨stem, rfl, htarget, hstem⟩
  · exact .inl hup
  · right
    have hslash := h.notMem_slash hname.no_slash
    have hnul := hname.no_nul
    have hshort := hname.short
    rw [htarget] at hslash ⊢
    rw [String.toList_append, List.mem_append, not_or] at hnul
    rw [String.utf8ByteSize_append] at hshort
    refine ⟨ne_of_yuck stem (by decide), ne_of_yuck stem (by decide), ne_of_yuck stem (by decide),
      hslash, ?_, ?_⟩
    · rw [String.toList_append, List.mem_append, not_or]
      exact ⟨hnul.1, by decide⟩
    · rw [String.utf8ByteSize_append]
      exact hshort

/-! ## The result of a source -/

section
variable {config : Config} (site : Site config) (files : FileTree) (names : List String)

/-- Why the directories around the result of a source cannot be created. -/
def Site.creation? : Option FileError :=
  (if names.dropLast = [] then none
    else pathError? (targetDirectory config (Path.joinAll config.input names))).or
      (files.obstacle? site.output names.dropLast)

/-- Why the result of a source cannot be written, if the directories around it are there. -/
def Site.writing? : Option FileError :=
  (pathError? (outputPath config (Path.joinAll config.input names))).or
    (if (site.target names).getLast? = some ".." ∨
        (files.get? (site.target names)).any Entry.isDirectory then some .isDirectory
      else none)

/-- A location on the way from the output directory to the result of a source. -/
def Site.Leads (loc : Location) : Prop :=
  ∃ ps, ps <+: names.dropLast ∧ loc = site.output ++ ps

end

section
variable {config : Config} {site : Site config} {files files' made : FileTree}
  {names : List String} {loc : Location} {account : Account} {html text : String}

theorem Site.Underway.directoryAt_output (hU : site.Underway files) :
    files.directoryAt config.output = .ok site.output :=
  directoryAt_eq_ok_iff.2
    ⟨hU.grows.locate site.locate_output, hU.grows.directory _ site.get?_output⟩

theorem Path.length_le_joinAll {names : List String} (hnames : ∀ name ∈ names, IsName name)
    (path : String) : names.length ≤ (joinAll path names).length := by
  induction names using List.reverseRecOn with
  | nil => exact Nat.zero_le _
  | append_singleton names name ih =>
    have hlength := ih fun n hn => hnames n (List.mem_append_left _ hn)
    have hname : 0 < name.toList.length :=
      List.length_pos_of_ne_nil (hnames name (by simp)).toList_ne_nil
    obtain ⟨gap, hlist, -⟩ := join_toList (joinAll path names) name
    rw [joinAll_concat, List.length_append, List.length_singleton, ← String.length_toList, hlist,
      List.length_append, List.length_append, String.length_toList]
    omega

/-- The directories around a result are created, or nothing is. -/
theorem Site.IsSource.createAll_eq (hs : site.IsSource names) (hU : site.Underway files)
    (hopen : config.output = "" ∨ pathError? config.output = none) :
    match site.creation? files names with
    | some e =>
      files.createAll (targetDirectory config (Path.joinAll config.input names)) =
        (files, .error e)
    | none =>
      (files.createAll (targetDirectory config (Path.joinAll config.input names))).2 = .ok () := by
  obtain ⟨-, -, -, -, hinit, -⟩ := hs.exists_name
  rw [creation?, hs.targetDirectory_eq, createAll, Path.ancestors]
  by_cases hnil : names.dropLast = []
  · rw [if_pos hnil, Option.none_or]
    exact createChain_joinAll hU.wellFormed hopen hU.directoryAt_output hinit
      (absurd hnil) (by simp [hnil])
  rw [if_neg hnil]
  have htrim := trimEnd_joinAll config.output hinit hnil
  cases hpath : pathError? (Path.trimEnd (Path.joinAll config.output names.dropLast)) with
  | some e =>
    rw [Option.some_or]
    refine createChain_of_pathError? ?_ hpath _
    rw [htrim]
    exact joinAll_ne_empty hinit hnil
  | none =>
    rw [Option.none_or]
    refine createChain_joinAll hU.wellFormed hopen hU.directoryAt_output hinit
      (fun _ => htrim ▸ hpath) ?_
    rw [htrim]
    exact Path.length_le_joinAll hinit _

/-- What is left to do once the directories around a result are there. -/
theorem Site.IsSource.write_eq (hs : site.IsSource names) (hU : site.Underway files)
    (hdir : files.get? (site.output ++ names.dropLast) = some .directory) (content : ByteArray) :
    files.write (outputPath config (Path.joinAll config.input names)) content =
      match site.writing? files names with
      | some e => .error e
      | none => .ok (files.put (site.target names) (.file content)) := by
  obtain ⟨source, -, hhtml, hsource, hinit, htarget⟩ := hs.exists_name
  have hat : files.directoryAt (Path.joinAll config.output names.dropLast) =
      .ok (site.output ++ names.dropLast) :=
    directoryAt_eq_ok_iff.2 ⟨locate_joinAll hU.wellFormed (hU.grows.locate site.locate_output) hdir,
      hdir⟩
  have hloc : site.target names =
      site.output ++ names.dropLast ++ [Path.setExtension "yuck" source] := by
    rw [target, htarget, List.append_assoc]
  rw [writing?, hloc, List.getLast?_concat, outputPath, htarget, Path.joinAll_concat]
  cases hpath : pathError? (Path.join (Path.joinAll config.output names.dropLast)
      (Path.setExtension "yuck" source)) with
  | some e =>
    rw [Option.some_or]
    exact write_of_pathError? hpath content
  | none =>
    rw [Option.none_or]
    rcases hhtml.isName_setExtension hsource with hup | hname
    · rw [hup] at hpath ⊢
      rw [write_join_up hU.wellFormed hpath hat, if_pos (.inl rfl)]
    · have hup : some (Path.setExtension "yuck" source) ≠ some ".." :=
        fun heq => hname.ne_up (Option.some.inj heq)
      rw [write_join hU.wellFormed hname hpath hat]
      simp only [hup, false_or]
      split_ifs <;> rfl

theorem Site.IsSource.not_leads_target (hs : site.IsSource names) :
    ¬ site.Leads names (site.target names) := by
  rintro ⟨ps, hps, heq⟩
  obtain ⟨source, -, -, -, -, htarget⟩ := hs.exists_name
  rw [target, htarget, List.append_cancel_left_eq] at heq
  have hlength := hps.length_le
  simp [← heq] at hlength

/-- If nothing stops the creation, all directories on the way are there, and nothing else is
    new. -/
theorem Site.IsSource.exists_made (hs : site.IsSource names) (hU : site.Underway files)
    (hopen : config.output = "" ∨ pathError? config.output = none)
    (hcreation : site.creation? files names = none) :
    ∃ made, files.createAll (targetDirectory config (Path.joinAll config.input names)) =
        (made, .ok ()) ∧
      AddsDirectories (site.Leads names) files made ∧
      (∀ loc, site.Leads names loc → made.get? loc = some .directory) ∧
      site.writing? made names = site.writing? files names := by
  obtain ⟨-, -, -, -, hinit, -⟩ := hs.exists_name
  have hok := hs.createAll_eq hU hopen
  have hadds := hs.addsDirectories hU
  rw [hcreation] at hok
  dsimp only at hok
  have hleads := leadsToDirectory_createAll hU.wellFormed hok
  rcases hcreate : files.createAll (targetDirectory config (Path.joinAll config.input names)) with
    ⟨made, created⟩
  rw [hcreate] at hok hadds hleads
  obtain rfl : created = .ok () := hok
  refine ⟨made, rfl, hadds, ?_, ?_⟩
  · rw [hs.targetDirectory_eq] at hleads
    have hlast := get?_of_leadsToDirectory hadds.wellFormed
      (hadds.grows.locate (hU.grows.locate site.locate_output)) hinit hleads
    rintro loc ⟨ps, ⟨rest, hrest⟩, rfl⟩
    rw [← hrest] at hlast
    by_cases hnil : rest = []
    · rwa [hnil, List.append_nil] at hlast
    · rw [← List.append_assoc] at hlast
      exact hadds.wellFormed.get?_around hnil hlast
  · have hsame := (hadds.get? (site.target names)).resolve_right
      fun h => hs.not_leads_target h.2.2
    rw [writing?, writing?, hsame]

/-- The account of a conversion that has come to a text. -/
def placement (config : Config) (path html : String) : Option Failure → Account
  | some f => .ofEvents (conversionEvents path html) ++ .ofFailure f
  | none => .ofEvents (conversionEvents path html) ++ .ofResult path (outputPath config path)

/-- What a conversion changes if nothing stops the creation of directories. -/
structure Site.Effect (site : Site config) (files files' : FileTree) (names : List String)
    (text : String) : Prop where
  leading : ∀ loc, site.Leads names loc → files'.get? loc = some .directory
  target : site.writing? files names = none →
    files'.get? (site.target names) = some (.file text.toUTF8)
  other : ∀ loc, ¬ site.Leads names loc →
    (site.writing? files names = none → loc ≠ site.target names) → files'.get? loc = files.get? loc

theorem FileStep.of_unreadable {path : String} (h : FileStep config path files files' account)
    {e : FileError} (hread : files.readText path = .error e) :
    files' = files ∧
      account = .ofEvents [.remark (.processing path)] ++ .ofFailure (.read path e) := by
  cases h with
  | unreadable hread' =>
    obtain rfl := Except.error.inj (hread'.symm.trans hread)
    exact ⟨rfl, rfl⟩
  | untranslatable hread' | uncreatable hread' | unwritable hread' | converted hread' =>
    cases hread'.symm.trans hread

theorem FileStep.of_untranslatable {path : String} (h : FileStep config path files files' account)
    {e : StructureError} (hread : files.readText path = .ok html)
    (hconvert : (convert html).1 = .error e) :
    files' = files ∧
      account = .ofEvents (conversionEvents path html) ++ .ofError path e.diagnostic := by
  cases h with
  | unreadable hread' => cases hread'.symm.trans hread
  | untranslatable hread' hconvert' =>
    obtain rfl := Except.ok.inj (hread'.symm.trans hread)
    obtain rfl := Except.error.inj (hconvert'.symm.trans hconvert)
    exact ⟨rfl, rfl⟩
  | uncreatable hread' hconvert' | unwritable hread' hconvert' | converted hread' hconvert' =>
    obtain rfl := Except.ok.inj (hread'.symm.trans hread)
    cases hconvert'.symm.trans hconvert

/-- A conversion that comes to a text goes on with the directories and the result. -/
theorem FileStep.cases_of_text {path : String} (h : FileStep config path files files' account)
    (hread : files.readText path = .ok html) (hconvert : (convert html).1 = .ok text) :
    (∃ e, files.createAll (targetDirectory config path) = (files', .error e) ∧
      account = placement config path html
        (some (.createDirectory (targetDirectory config path) e))) ∨
    (∃ e, files.createAll (targetDirectory config path) = (files', .ok ()) ∧
      files'.write (outputPath config path) text.toUTF8 = .error e ∧
      account = placement config path html (some (.write (outputPath config path) e))) ∨
    ∃ made, files.createAll (targetDirectory config path) = (made, .ok ()) ∧
      made.write (outputPath config path) text.toUTF8 = .ok files' ∧
      account = placement config path html none := by
  have hsame : ∀ {html' text'}, files.readText path = .ok html' → (convert html').1 = .ok text' →
      html' = html ∧ text' = text := by
    intro html' text' hread' hconvert'
    obtain rfl := Except.ok.inj (hread'.symm.trans hread)
    exact ⟨rfl, Except.ok.inj (hconvert'.symm.trans hconvert)⟩
  cases h with
  | unreadable hread' => cases hread'.symm.trans hread
  | untranslatable hread' hconvert' =>
    obtain rfl := Except.ok.inj (hread'.symm.trans hread)
    cases hconvert'.symm.trans hconvert
  | uncreatable hread' hconvert' hcreate =>
    obtain ⟨rfl, rfl⟩ := hsame hread' hconvert'
    exact .inl ⟨_, hcreate, rfl⟩
  | unwritable hread' hconvert' hcreate hwrite =>
    obtain ⟨rfl, rfl⟩ := hsame hread' hconvert'
    exact .inr (.inl ⟨_, hcreate, hwrite, rfl⟩)
  | converted hread' hconvert' hcreate hwrite =>
    obtain ⟨rfl, rfl⟩ := hsame hread' hconvert'
    exact .inr (.inr ⟨_, hcreate, hwrite, rfl⟩)

section
variable (h : FileStep config (Path.joinAll config.input names) files files' account)
  (hs : site.IsSource names) (hU : site.Underway files)
  (hopen : config.output = "" ∨ pathError? config.output = none)
  (hread : files.readText (Path.joinAll config.input names) = .ok html)
  (hconvert : (convert html).1 = .ok text)
include h hs hU hopen hread hconvert

/-- If something stops the creation of directories, nothing changes. -/
theorem FileStep.of_creation {e : FileError} (hcreation : site.creation? files names = some e) :
    files' = files ∧ account = placement config (Path.joinAll config.input names) html
      (some (.createDirectory (targetDirectory config (Path.joinAll config.input names)) e)) := by
  have hcreate := hs.createAll_eq hU hopen
  rw [hcreation] at hcreate
  dsimp only at hcreate
  rcases h.cases_of_text hread hconvert with
    ⟨e', hcreate', rfl⟩ | ⟨e', hcreate', -⟩ | ⟨made, hcreate', -⟩
  · obtain ⟨rfl, he⟩ := Prod.mk.inj (hcreate'.symm.trans hcreate)
    obtain rfl := Except.error.inj he
    exact ⟨rfl, rfl⟩
  · cases hcreate'.symm.trans hcreate
  · cases hcreate'.symm.trans hcreate

/-- If nothing does, the directories are there afterwards, and the result unless something stops
    the writing. -/
theorem FileStep.of_clear (hcreation : site.creation? files names = none) :
    site.Effect files files' names text ∧
      account = placement config (Path.joinAll config.input names) html
        ((site.writing? files names).map
          (.write (outputPath config (Path.joinAll config.input names)))) := by
  obtain ⟨made, hcreate, hadds, hleading, hwriting⟩ := hs.exists_made hU hopen hcreation
  have hwrite := hs.write_eq (hs.underway_made hU hadds) (hleading _ ⟨_, List.prefix_refl _, rfl⟩)
    text.toUTF8
  have hother : ∀ loc, ¬ site.Leads names loc → made.get? loc = files.get? loc :=
    fun loc hloc => (hadds.get? loc).resolve_right fun hnew => hloc hnew.2.2
  rw [hwriting] at hwrite
  rcases h.cases_of_text hread hconvert with
    ⟨e, hcreate', -⟩ | ⟨e, hcreate', hwrite', rfl⟩ | ⟨made', hcreate', hwrite', rfl⟩
  · cases hcreate'.symm.trans hcreate
  · obtain ⟨rfl, -⟩ := Prod.mk.inj (hcreate'.symm.trans hcreate)
    cases hw : site.writing? files names with
    | none => cases hwrite'.symm.trans (hw ▸ hwrite)
    | some e' =>
      obtain rfl := Except.error.inj (hwrite'.symm.trans (hw ▸ hwrite))
      exact ⟨⟨hleading, by simp [hw], fun loc hloc _ => hother loc hloc⟩, rfl⟩
  · obtain ⟨rfl, -⟩ := Prod.mk.inj (hcreate'.symm.trans hcreate)
    cases hw : site.writing? files names with
    | some e => cases hwrite'.symm.trans (hw ▸ hwrite)
    | none =>
      obtain rfl := Except.ok.inj (hwrite'.symm.trans (hw ▸ hwrite))
      have hne : site.target names ≠ [] := by
        obtain ⟨source, -, -, -, -, htarget⟩ := hs.exists_name
        simp [Site.target, htarget]
      refine ⟨⟨fun loc hloc => ?_, fun _ => ?_, fun loc hloc htarget => ?_⟩, rfl⟩
      · rw [get?_put _ hne, if_neg, hleading loc hloc]
        rintro rfl
        exact hs.not_leads_target hloc
      · rw [get?_put _ hne, if_pos rfl]
      · rw [get?_put _ hne, if_neg (htarget hw), hother loc hloc]

end

end

end WidgetMarkup
