/-
  What a run reports is what it did.

  * `Account.Balanced`: every processed file and every error of the walk is counted once,
    and results are listed and announced in the order of their sources.
  * `Explains`: a file without a result has an error that says why.
  * `Site.Delivers`: in the end, the target of every converted source holds the text that
    its conversion gave, because no other source has the same target.
  * `summary_runBatch` puts them together, with the exit code.
-/
import Mathlib.Data.List.Nodup
import WidgetMarkup.Proofs.Coverage
import WidgetMarkup.Proofs.Printing

namespace WidgetMarkup

open FileTree

/-! ## Counting -/

/-- Whether an event is an error of the walk. -/
def Event.isWalkError : Event → Bool
  | .failure (.walk _ _) => true
  | _ => false

/-- The source of a result that is announced. -/
def Event.source? : Event → Option String
  | .converted source _ => some source
  | _ => none

/-- The number of errors of the walk. -/
def walkErrors (events : List Event) : Nat :=
  events.countP Event.isWalkError

/-- The sources of the results, in order. -/
def succeeded (events : List Event) : List String :=
  events.filterMap Event.source?

@[simp]
theorem walkErrors_append (events more : List Event) :
    walkErrors (events ++ more) = walkErrors events + walkErrors more :=
  List.countP_append

@[simp]
theorem succeeded_append (events more : List Event) :
    succeeded (events ++ more) = succeeded events ++ succeeded more :=
  List.filterMap_append

/-- What is counted, listed and announced agrees. -/
structure Account.Balanced (config : Config) (account : Account) : Prop where
  counted : account.written.length + account.failed =
    (processed account.events).length + walkErrors account.events
  sources : (succeeded account.events).Sublist (processed account.events)
  written : account.written = (succeeded account.events).map (outputPath config)
  announced : announcements account.events = String.join ((succeeded account.events).map
    fun source => s!"Transpiled: {source} → {outputPath config source}\n")

section
variable {config : Config} {files files' : FileTree} {path html : String}
  {account account' : Account}

theorem Account.Balanced.append (h : account.Balanced config) (h' : account'.Balanced config) :
    (account ++ account').Balanced config where
  counted := by
    have := h.counted
    have := h'.counted
    simp only [written_append, failed_append, events_append, List.length_append, processed_append,
      walkErrors_append]
    omega
  sources := by
    simpa using h.sources.append h'.sources
  written := by
    rw [written_append, events_append, succeeded_append, List.map_append, h.written, h'.written]
  announced := by
    rw [events_append, announcements_append, h.announced, h'.announced, succeeded_append,
      List.map_append, String.join_append]

/-- Up to its end, a conversion counts as no error of the walk and announces nothing. -/
theorem conversionEvents_silent (path html : String) :
    walkErrors (conversionEvents path html) = 0 ∧ succeeded (conversionEvents path html) = [] ∧
      announcements (conversionEvents path html) = "" := by
  refine ⟨?_, ?_, ?_⟩
  · simp [walkErrors, conversionEvents, Event.isWalkError, List.countP_map, Function.comp_def]
  · simp [succeeded, conversionEvents, Event.source?]
  · rw [conversionEvents]
    induction (convert html).2 with
    | nil => rfl
    | cons d ds ih =>
      have hd : (Event.diagnostic path d).announcement = "" := rfl
      simpa [announcements, hd] using ih

/-- After the conversion, a file is counted once. -/
theorem balanced_conversion {last : Account}
    (hcounted : last.written.length + last.failed = 1)
    (hprocessed : processed last.events = []) (hwalk : walkErrors last.events = 0)
    (hsources : (succeeded last.events).Sublist [path])
    (hwritten : last.written = (succeeded last.events).map (outputPath config))
    (hannounced : announcements last.events = String.join ((succeeded last.events).map
      fun source => s!"Transpiled: {source} → {outputPath config source}\n")) :
    (Account.ofEvents (conversionEvents path html) ++ last).Balanced config := by
  obtain ⟨hnoerror, hnone, hnothing⟩ := conversionEvents_silent path html
  have hevents : (Account.ofEvents (conversionEvents path html) ++ last).events =
      conversionEvents path html ++ last.events := rfl
  have hsame : succeeded (conversionEvents path html ++ last.events) = succeeded last.events := by
    rw [succeeded_append, hnone, List.nil_append]
  constructor
  · rw [hevents, processed_append, processed_conversionEvents, hprocessed, walkErrors_append,
      hnoerror, hwalk]
    simpa [Account.ofEvents] using hcounted
  · rw [hevents, hsame, processed_append, processed_conversionEvents, hprocessed]
    exact hsources
  · rw [hevents, hsame]
    exact hwritten
  · rw [hevents, hsame, announcements_append, hnothing, String.empty_append]
    exact hannounced

/-- A conversion is counted once, as a result or as a failure. -/
theorem FileStep.balanced (h : FileStep config path files files' account) :
    account.Balanced config := by
  cases h with
  | unreadable => exact ⟨rfl, List.nil_sublist _, rfl, rfl⟩
  | untranslatable | uncreatable | unwritable =>
    exact balanced_conversion rfl rfl rfl (List.nil_sublist _) rfl rfl
  | converted => exact balanced_conversion rfl rfl rfl (List.Sublist.refl _) rfl rfl

theorem composes_balanced (site : Site config) :
    site.Composes fun _ _ account => account.Balanced config where
  done := fun _ => ⟨rfl, .slnil, rfl, rfl⟩
  skipped := fun _ _ => ⟨rfl, .slnil, rfl, rfl⟩
  entered := fun _ _ => ⟨rfl, .slnil, rfl, rfl⟩
  unlisted := fun _ _ _ => ⟨rfl, .slnil, rfl, rfl⟩
  step := fun _ _ h => h.balanced
  append := fun h h' => h.append h'

/-! ## Files without a result -/

/-- Why a file has no result, and the error that says so.  The file is read as it was when the
    walk started; its target could not be created from the files at some moment between the
    start and the end of the walk. -/
inductive Explains (config : Config) (first last : FileTree) (source : String) : Event → Prop
  | unreadable {e : FileError} (hread : first.readText source = .error e) :
    Explains config first last source (.failure (.read source e))
  | untranslatable {html : String} {e : StructureError}
      (hread : first.readText source = .ok html) (hconvert : (convert html).1 = .error e) :
    Explains config first last source (.diagnostic source e.diagnostic)
  | uncreatable {during after : FileTree} {e : FileError} (hfirst : first.Grows during)
      (hlast : during.Grows last)
      (hcreate : during.createAll (targetDirectory config source) = (after, .error e)) :
    Explains config first last source
      (.failure (.createDirectory (targetDirectory config source) e))
  | unwritable {during after : FileTree} {text : String} {e : FileError}
      (hfirst : first.Grows during) (hlast : during.Grows last)
      (hcreate : during.createAll (targetDirectory config source) = (after, .ok ()))
      (hwrite : after.write (outputPath config source) text.toUTF8 = .error e) :
    Explains config first last source (.failure (.write (outputPath config source) e))

theorem Explains.grows {first last last' : FileTree} {source : String} {event : Event}
    (h : Explains config first last source event) (hgrows : last.Grows last') :
    Explains config first last' source event := by
  cases h with
  | unreadable hread => exact .unreadable hread
  | untranslatable hread hconvert => exact .untranslatable hread hconvert
  | uncreatable hfirst hlast hcreate => exact .uncreatable hfirst (hlast.trans hgrows) hcreate
  | unwritable hfirst hlast hcreate hwrite =>
    exact .unwritable hfirst (hlast.trans hgrows) hcreate hwrite

section
variable {site : Site config} {names : List String}

/-- Sources are found during a walk as they were at its start. -/
theorem Site.Underway.find_source (hU : site.Underway files) (hs : site.IsSource names) :
    files.find (Path.joinAll config.input names) =
      site.start.find (Path.joinAll config.input names) := by
  obtain ⟨hname, content, hfile⟩ := hs
  cases hpath : pathError? (Path.joinAll config.input names) with
  | some e => rw [find, find, hpath]
  | none =>
    have hstart := locate_joinAll site.wellFormed site.locate_input hfile
    rw [find_eq_ok_iff.2 ⟨hpath, hstart, hfile⟩,
      find_eq_ok_iff.2 ⟨hpath, hU.grows.locate hstart, hU.get?_source hname hfile⟩]

theorem Site.Underway.readText_source (hU : site.Underway files) (hs : site.IsSource names) :
    files.readText (Path.joinAll config.input names) =
      site.start.readText (Path.joinAll config.input names) := by
  rw [readText, readText, FileTree.read, FileTree.read, hU.find_source hs]

/-- Every processed file has a result or an error that says why it has none. -/
def Site.Explained (site : Site config) (files files' : FileTree) (account : Account) : Prop :=
  files.Grows files' ∧ ∀ source ∈ processed account.events,
    source ∈ succeeded account.events ∨
      ∃ event ∈ account.events, Explains config site.start files' source event

theorem FileStep.explained
    (h : FileStep config (Path.joinAll config.input names) files files' account)
    (hs : site.IsSource names) (hU : site.Underway files) :
    site.Explained files files' account := by
  obtain ⟨-, hgrows⟩ := h.underway hs hU
  refine ⟨hgrows, fun source hsource => ?_⟩
  rw [h.processed_eq, List.mem_singleton] at hsource
  subst hsource
  have hsame := hU.readText_source hs
  cases h with
  | unreadable hread =>
    exact .inr ⟨_, by simp [Account.ofFailure], .unreadable (hsame.symm.trans hread)⟩
  | untranslatable hread hconvert =>
    exact .inr ⟨_, by simp [Account.ofError], .untranslatable (hsame.symm.trans hread) hconvert⟩
  | uncreatable hread hconvert hcreate =>
    exact .inr ⟨_, by simp [Account.ofFailure], .uncreatable hU.grows hgrows hcreate⟩
  | unwritable hread hconvert hcreate hwrite =>
    exact .inr ⟨_, by simp [Account.ofFailure], .unwritable hU.grows hgrows hcreate hwrite⟩
  | converted hread hconvert hcreate hwrite =>
    rw [Account.events_append, succeeded_append]
    exact .inl (List.mem_append_right _ List.mem_cons_self)

theorem composes_explained (site : Site config) : site.Composes site.Explained where
  done := fun _ => ⟨.refl _, nofun⟩
  skipped := fun _ _ => ⟨.refl _, nofun⟩
  entered := fun _ _ => ⟨.refl _, nofun⟩
  unlisted := fun _ _ _ => ⟨.refl _, nofun⟩
  step := fun hs hU h => h.explained hs hU
  append := by
    rintro files mid files' first rest ⟨hgrows, hfirst⟩ ⟨hgrows', hrest⟩
    refine ⟨hgrows.trans hgrows', fun source hsource => ?_⟩
    simp only [Account.events_append, processed_append, succeeded_append, List.mem_append] at *
    rcases hsource with hsource | hsource
    · rcases hfirst source hsource with hsucceeded | ⟨event, hevent, hexplains⟩
      · exact .inl (.inl hsucceeded)
      · exact .inr ⟨event, .inl hevent, hexplains.grows hgrows'⟩
    · rcases hrest source hsource with hsucceeded | ⟨event, hevent, hexplains⟩
      · exact .inl (.inr hsucceeded)
      · exact .inr ⟨event, .inr hevent, hexplains⟩

/-! ## Results in place -/

theorem FileTree.read_eq_ok_iff {content : ByteArray} :
    files.read path = .ok content ↔ ∃ loc, files.find path = .ok (loc, .file content) := by
  rw [FileTree.read]
  cases hfind : files.find path with
  | error e => simp
  | ok found =>
    obtain ⟨loc, e⟩ := found
    cases e with
    | directory => simp
    | file bytes => simp

theorem FileTree.readText_eq_ok (h : files.readText path = .ok html) :
    ∃ loc content, files.find path = .ok (loc, .file content) ∧
      String.fromUTF8? content = some html := by
  rw [readText] at h
  cases hread : files.read path with
  | error e => simp [hread] at h
  | ok content =>
    obtain ⟨loc, hfind⟩ := read_eq_ok_iff.1 hread
    cases htext : String.fromUTF8? content with
    | none => simp [hread, htext] at h
    | some text =>
      simp only [hread, htext, Except.ok.injEq] at h
      exact ⟨loc, content, hfind, by rw [htext, h]⟩

/-- The result of a source is in its place: the target holds the text that the content of the
    source gives. -/
structure Site.Holds (site : Site config) (files : FileTree) (names : List String) : Prop where
  text : ∃ html text, site.start.readText (Path.joinAll config.input names) = .ok html ∧
    (convert html).1 = .ok text ∧ files.get? (site.target names) = some (.file text.toUTF8)
  pathError?_eq : pathError? (outputPath config (Path.joinAll config.input names)) = none
  ne_up : (site.target names).getLast? ≠ some ".."

/-- Results stay in place, and nothing else that is a file changes. -/
structure Site.Delivers (site : Site config) (files files' : FileTree) (account : Account) :
    Prop where
  isSource : ∀ source ∈ processed account.events,
    ∃ names, source = Path.joinAll config.input names ∧ site.IsSource names
  succeeded_subset : succeeded account.events ⊆ processed account.events
  kept : ∀ loc content, files.get? loc = some (.file content) →
    (∀ names, site.IsSource names → Path.joinAll config.input names ∈ processed account.events →
      loc ≠ site.target names) →
    files'.get? loc = some (.file content)
  delivered : (processed account.events).Nodup → ∀ names, site.IsSource names →
    Path.joinAll config.input names ∈ succeeded account.events → site.Holds files' names

theorem Site.Delivers.silent (site : Site config) (files : FileTree)
    (hprocessed : processed account.events = []) (hsucceeded : succeeded account.events = []) :
    site.Delivers files files account where
  isSource := by simp [hprocessed]
  succeeded_subset := by simp [hsucceeded]
  kept := fun _ _ h _ => h
  delivered := by simp [hsucceeded]

theorem Site.IsSource.joinAll_injective {more : List String} (hs : site.IsSource names)
    (hs' : site.IsSource more)
    (h : Path.joinAll config.input names = Path.joinAll config.input more) : names = more := by
  obtain ⟨-, content, hfile⟩ := hs
  obtain ⟨-, content', hfile'⟩ := hs'
  exact Path.joinAll_injective
    (fun n hn => site.wellFormed.isName hfile n (List.mem_append_right _ hn))
    (fun n hn => site.wellFormed.isName hfile' n (List.mem_append_right _ hn)) h

/-- A source with a result was read, converted and written. -/
theorem FileStep.exists_write (h : FileStep config path files files' account)
    (hsucceeded : path ∈ succeeded account.events) :
    ∃ html text made, files.readText path = .ok html ∧ (convert html).1 = .ok text ∧
      files.createAll (targetDirectory config path) = (made, .ok ()) ∧
      made.write (outputPath config path) text.toUTF8 = .ok files' := by
  have hnone : ∀ {html : String} {last : Account}, succeeded last.events = [] →
      path ∉ succeeded (Account.ofEvents (conversionEvents path html) ++ last).events := by
    intro html last hlast
    rw [Account.events_append, succeeded_append, Account.events_ofEvents,
      (conversionEvents_silent path html).2.1, hlast]
    exact List.not_mem_nil
  cases h with
  | unreadable => cases hsucceeded
  | untranslatable | uncreatable | unwritable => exact absurd hsucceeded (hnone rfl)
  | converted hread hconvert hcreate hwrite => exact ⟨_, _, _, hread, hconvert, hcreate, hwrite⟩

theorem FileStep.delivers
    (h : FileStep config (Path.joinAll config.input names) files files' account)
    (hs : site.IsSource names) (hU : site.Underway files) :
    site.Delivers files files' account where
  isSource := by
    intro source hsource
    rw [h.processed_eq, List.mem_singleton] at hsource
    exact ⟨names, hsource, hs⟩
  succeeded_subset := h.balanced.sources.subset
  kept := by
    intro loc content hloc hne
    have hother : loc ≠ site.target names := hne names hs (by simp [h.processed_eq])
    obtain ⟨made, hadds, rfl | ⟨bytes, hwrite⟩⟩ := h.exists_addsDirectories hs hU
    · exact hadds.get?_of_some hloc
    · obtain ⟨dir, name, htarget, -, -, -, -, -, -, rfl⟩ :=
        hs.write_eq_ok (hs.underway_made hU hadds) hwrite
      rw [get?_put made (by simp), if_neg (htarget ▸ hother)]
      exact hadds.get?_of_some hloc
  delivered := by
    intro _ more hmore hsucceeded
    have hpath := h.balanced.sources.subset hsucceeded
    rw [h.processed_eq, List.mem_singleton] at hpath
    obtain rfl := hmore.joinAll_injective hs hpath
    obtain ⟨html, text, made, hread, hconvert, hcreate, hwrite⟩ := h.exists_write hsucceeded
    have hadds := hs.addsDirectories hU
    rw [hcreate] at hadds
    obtain ⟨dir, name, htarget, hname, -, -, -, hpathError, -, rfl⟩ :=
      hs.write_eq_ok (hs.underway_made hU hadds) hwrite
    refine ⟨⟨html, text, (hU.readText_source hs).symm.trans hread, hconvert, ?_⟩, hpathError, ?_⟩
    · rw [htarget, get?_put made (by simp), if_pos rfl]
    · rw [htarget, List.getLast?_concat]
      exact fun heq => hname.ne_up (Option.some.inj heq)

/-- No later source has the same target. -/
theorem Site.Holds.kept {mid : FileTree} {rest : Account} (h : site.Holds mid names)
    (hs : site.IsSource names) (hrest : site.Delivers mid files' rest)
    (hlater : Path.joinAll config.input names ∉ processed rest.events) :
    site.Holds files' names := by
  obtain ⟨html, text, hread, hconvert, hget⟩ := h.text
  refine ⟨⟨html, text, hread, hconvert, hrest.kept _ _ hget ?_⟩, h.pathError?_eq, h.ne_up⟩
  rintro more hmore hmem heq
  obtain rfl := hs.target_injective hmore heq
  exact hlater hmem

theorem composes_delivers (site : Site config) : site.Composes site.Delivers where
  done := fun files => .silent site files rfl rfl
  skipped := fun files _ => .silent site files rfl rfl
  entered := fun files _ => .silent site files rfl rfl
  unlisted := fun files _ _ => .silent site files rfl rfl
  step := fun hs hU h => h.delivers hs hU
  append := by
    intro files mid files' first rest hfirst hrest
    refine ⟨?_, ?_, ?_, ?_⟩
    · intro source hsource
      rw [Account.events_append, processed_append, List.mem_append] at hsource
      exact hsource.elim (hfirst.isSource source) (hrest.isSource source)
    · rw [Account.events_append, processed_append, succeeded_append]
      exact List.append_subset.2 ⟨fun s hs => List.mem_append_left _ (hfirst.succeeded_subset hs),
        fun s hs => List.mem_append_right _ (hrest.succeeded_subset hs)⟩
    · intro loc content hloc hne
      rw [Account.events_append, processed_append] at hne
      refine hrest.kept loc content (hfirst.kept loc content hloc ?_) ?_
      · exact fun names hs hmem => hne names hs (List.mem_append_left _ hmem)
      · exact fun names hs hmem => hne names hs (List.mem_append_right _ hmem)
    · intro hnodup names hs hmem
      rw [Account.events_append, processed_append, List.nodup_append] at hnodup
      obtain ⟨hnodup₁, hnodup₂, hdistinct⟩ := hnodup
      rw [Account.events_append, succeeded_append, List.mem_append] at hmem
      rcases hmem with hmem | hmem
      · exact (hfirst.delivered hnodup₁ names hs hmem).kept hs hrest
          (fun hlater => hdistinct _ (hfirst.succeeded_subset hmem) _ hlater rfl)
      · exact hrest.delivered hnodup₂ names hs hmem

end

end

/-! ## The whole report -/

/-- How every error starts that is printed. -/
def errorMark (colored : Bool) : String :=
  if colored then Severity.error.color ++ "error" ++ plain else "error"

theorem exists_errorLine_eq (colored : Bool) (message : String) :
    ∃ rest, errorLine colored message = errorMark colored ++ rest := by
  refine ⟨": " ++ message ++ "\n", ?_⟩
  rw [errorLine, errorMark]
  simp only [String.append_assoc]

theorem Explains.exists_event_eq {config : Config} {first last : FileTree} {source : String}
    {event : Event} (h : Explains config first last source event) (style : Style) :
    ∃ rest, style.event event = errorMark style.colored ++ rest := by
  cases h with
  | unreadable | uncreatable | unwritable => exact exists_errorLine_eq _ _
  | @untranslatable html e hread hconvert =>
    have hheader : ∃ rest, headerLine style.colored e.diagnostic.severity
        (source ++ ": " ++ e.diagnostic.message) = errorMark style.colored ++ rest := by
      rw [headerLine, errorMark]
      split_ifs
      · exact ⟨_, by simp only [String.append_assoc]; rfl⟩
      · exact ⟨_, by simp only [String.append_assoc]; rfl⟩
    obtain ⟨rest, hrest⟩ := hheader
    rw [Style.event, Style.diagnostic, hrest]
    split
    · exact ⟨_, rfl⟩
    · exact ⟨_, by simp only [String.append_assoc]; rfl⟩

theorem Style.exists_events_eq {events : List Event} {event : Event} (h : event ∈ events)
    (style : Style) :
    ∃ before after, style.events events = before ++ style.event event ++ after := by
  obtain ⟨l, r, rfl⟩ := List.append_of_mem h
  refine ⟨style.events l, style.events r, ?_⟩
  simp [Style.events, String.join_append, String.append_assoc]

/-- A summary agrees with the files after the run and with what was printed.  `made` are the
    files when the walk started. -/
structure Agrees (config : Config) (files made : FileTree) (result : BatchResult)
    (summary : Summary) : Prop where
  /-- Every processed file and every error of the walk is counted once. -/
  counted : summary.written.length + summary.failed =
    (processed result.events).length + walkErrors result.events
  nodup : summary.written.Nodup
  /-- Results come in the order in which their sources were processed. -/
  sources : (succeeded result.events).Sublist (processed result.events)
  written : summary.written = (succeeded result.events).map (outputPath config)
  announced : announcements result.events = String.join ((succeeded result.events).map
    fun source => s!"Transpiled: {source} → {outputPath config source}\n")
  /-- After the run, a result holds the text that the content of its source before the run
      gives. -/
  delivered : ∀ source ∈ succeeded result.events, ∃ loc content html text,
    made.find source = .ok (loc, .file content) ∧ files.get? loc = some (.file content) ∧
    String.fromUTF8? content = some html ∧ (convert html).1 = .ok text ∧
    result.files.read (outputPath config source) = .ok text.toUTF8
  /-- A processed file without a result has an error that says why, and it is printed. -/
  explained : ∀ source ∈ processed result.events, outputPath config source ∉ summary.written →
    ∃ event ∈ result.events, Explains config made result.files source event ∧
      ∀ style : Style, ∃ before message after,
        style.event event = errorMark style.colored ++ message ∧
        style.events result.events = before ++ (errorMark style.colored ++ message) ++ after

section
variable {config : Config} {files : FileTree} {summary : Summary}

/-- The path of a result that is in place leads to it. -/
theorem Site.Holds.find_target {site : Site config} {names : List String} {after : FileTree}
    {e : Entry} (h : site.Holds after names) (hU : site.Underway after)
    (hget : after.get? (site.target names) = some e) :
    after.find (outputPath config (Path.joinAll config.input names)) =
      .ok (site.target names, e) :=
  find_eq_ok_iff.2 ⟨h.pathError?_eq,
    locate_joinAll hU.wellFormed (hU.grows.locate site.locate_output) hget, hget⟩

theorem Site.Holds.exists_content {site : Site config} {names : List String} {after : FileTree}
    (h : site.Holds after names) (hU : site.Underway after)
    (hcreate : files.createAll config.output = (site.start, .ok ())) (hf : files.WellFormed) :
    ∃ loc content html text,
      site.start.find (Path.joinAll config.input names) = .ok (loc, .file content) ∧
      files.get? loc = some (.file content) ∧ String.fromUTF8? content = some html ∧
      (convert html).1 = .ok text ∧
      after.read (outputPath config (Path.joinAll config.input names)) = .ok text.toUTF8 := by
  obtain ⟨html, text, hread, hconvert, hget⟩ := h.text
  obtain ⟨loc, content, hfind, htext⟩ := readText_eq_ok hread
  have hadds := addsDirectories_createAll hf config.output
  rw [hcreate] at hadds
  refine ⟨loc, content, html, text, hfind, hadds.get?_of_file (find_eq_ok_iff.1 hfind).2.2, htext,
    hconvert, ?_⟩
  rw [FileTree.read, h.find_target hU hget]

/-- Results that are in place have different paths. -/
theorem Site.Holds.outputPath_injective {site : Site config} {names more : List String}
    {after : FileTree} (h : site.Holds after names) (h' : site.Holds after more)
    (hs : site.IsSource names) (hs' : site.IsSource more) (hf : after.WellFormed)
    (heq : outputPath config (Path.joinAll config.input names) =
      outputPath config (Path.joinAll config.input more)) : names = more := by
  obtain ⟨html, text, -, -, hget⟩ := h.text
  obtain ⟨html', text', -, -, hget'⟩ := h'.text
  have htargets := Path.joinAll_injective
    (fun n hn => hf.isName hget n (List.mem_append_right _ hn))
    (fun n hn => hf.isName hget' n (List.mem_append_right _ hn)) heq
  refine hs.target_injective hs' ?_
  rw [Site.target, Site.target, htargets]

/-- No source comes twice. -/
theorem nodup_processed {site : Site config} {account : Account} {rels : List (List String)}
    (hprocessed : processed account.events = rels.map (Path.joinAll config.input))
    (hsorted : rels.Pairwise (· < ·)) (hmem : ∀ rel ∈ rels, site.IsSource rel) :
    (processed account.events).Nodup := by
  rw [hprocessed]
  refine List.Nodup.map_on ?_ (hsorted.imp ne_of_lt)
  exact fun rel hrel more hmore => (hmem rel hrel).joinAll_injective (hmem more hmore)

/-- What was written for a source is in place at the end, because no source comes twice. -/
theorem Walks.exists_holds {site : Site config} {account : Account} {rels : List (List String)}
    {stops : List Stop} {after : FileTree} (hwalk : Walks config stops site.start after account)
    (hpresent : site.Present site.start stops)
    (hprocessed : processed account.events = rels.map (Path.joinAll config.input))
    (hsorted : rels.Pairwise (· < ·)) (hmem : ∀ rel ∈ rels, site.IsSource rel) :
    ∀ source ∈ succeeded account.events, ∃ names,
      source = Path.joinAll config.input names ∧ site.IsSource names ∧ site.Holds after names := by
  obtain ⟨-, -, hdelivers⟩ := hwalk.composed (composes_delivers site) site.underway_start hpresent
  have hnodup := nodup_processed hprocessed hsorted hmem
  intro source hsource
  obtain ⟨names, rfl, hs⟩ := hdelivers.isSource source (hdelivers.succeeded_subset hsource)
  exact ⟨names, rfl, hs, hdelivers.delivered hnodup names hs hsource⟩

theorem agrees_of_walks {site : Site config} {account : Account} {rels : List (List String)}
    {e : Entry} {result : BatchResult} (hf : files.WellFormed)
    (hcreate : files.createAll config.output = (site.start, .ok ()))
    (hget : site.start.get? site.input = some e)
    (hwalk : Walks config [⟨[], e.isDirectory⟩] site.start result.files account)
    (hevents : result.events = account.events)
    (hprocessed : processed account.events = rels.map (Path.joinAll config.input))
    (hsorted : rels.Pairwise (· < ·)) (hmem : ∀ rel ∈ rels, site.IsSource rel) :
    Agrees config files site.start result ⟨account.written, account.failed⟩ := by
  have hpresent := site.present_input hget
  obtain ⟨hU, -, hbalanced⟩ := hwalk.composed (composes_balanced site) site.underway_start hpresent
  obtain ⟨-, -, -, hexplained⟩ :=
    hwalk.composed (composes_explained site) site.underway_start hpresent
  have hnodup := nodup_processed hprocessed hsorted hmem
  have hholds := hwalk.exists_holds hpresent hprocessed hsorted hmem
  refine ⟨?_, ?_, ?_, ?_, ?_, ?_, ?_⟩
  · rw [hevents]
    exact hbalanced.counted
  · rw [hbalanced.written]
    refine List.Nodup.map_on ?_ (hbalanced.sources.nodup hnodup)
    intro source hsource other hother heq
    obtain ⟨names, rfl, hs, hnames⟩ := hholds source hsource
    obtain ⟨more, rfl, hs', hmore⟩ := hholds other hother
    rw [hnames.outputPath_injective hmore hs hs' hU.wellFormed heq]
  · rw [hevents]
    exact hbalanced.sources
  · rw [hevents]
    exact hbalanced.written
  · rw [hevents]
    exact hbalanced.announced
  · rw [hevents]
    intro source hsource
    obtain ⟨names, rfl, -, hnames⟩ := hholds source hsource
    exact hnames.exists_content hU hcreate hf
  · rw [hevents]
    intro source hsource hmissing
    have hnot : source ∉ succeeded account.events := fun hsucceeded =>
      hmissing (hbalanced.written ▸ List.mem_map_of_mem hsucceeded)
    obtain ⟨event, hevent, hexplains⟩ := (hexplained source hsource).resolve_left hnot
    refine ⟨event, hevent, hexplains, fun style => ?_⟩
    obtain ⟨message, hmessage⟩ := hexplains.exists_event_eq style
    obtain ⟨before, after, hprinted⟩ := style.exists_events_eq hevent
    exact ⟨before, message, after, hmessage, by rw [hprinted, hmessage]⟩

theorem agrees_runBatch (hf : files.WellFormed)
    (hok : (runBatch config files).outcome = .ok summary) :
    ∃ made, files.createAll config.output = (made, .ok ()) ∧
      Agrees config files made (runBatch config files) summary := by
  rcases hcreate : files.createAll config.output with ⟨made, created⟩
  cases created with
  | error err =>
    rw [runBatch, hcreate] at hok
    cases hok
  | ok =>
    refine ⟨made, rfl, ?_⟩
    cases hfind : made.find config.input with
    | error err =>
      rw [runBatch_of_find_eq_error hcreate hfind] at hok ⊢
      obtain rfl := Except.ok.inj hok
      exact ⟨rfl, List.nodup_nil, .slnil, rfl, rfl, by simp [succeeded, Event.source?],
        by simp [processed, Event.processed?]⟩
    | ok found =>
      obtain ⟨loc, e⟩ := found
      obtain ⟨site, rfl, rfl⟩ := exists_site hf hcreate hfind
      have hget := (find_eq_ok_iff.1 hfind).2.2
      obtain ⟨account, rels, hwalk, hevents, houtcome, hprocessed, hsorted, hmem⟩ :=
        exists_sources_runBatch site hcreate hget
      obtain rfl := Except.ok.inj (houtcome.symm.trans hok)
      exact agrees_of_walks hf hcreate hget hwalk hevents hprocessed hsorted
        fun rel hrel => ((hmem rel).1 hrel).2.1

end

/-- The exit code of a command line that leads to a run. -/
theorem code_of_execute {env : Environment} {args : List String} {files : FileTree}
    {execution : Execution} (h : execute env args files = .ok execution) :
    ∃ arguments, parseArguments env args = .ok arguments ∧
      (execution.code = 0 ↔ ∃ summary,
        (runBatch ⟨arguments.input, arguments.output⟩ files).outcome = .ok summary ∧
        summary.failed = 0) ∧
      (execution.code ≠ 0 → execution.code = 1) := by
  obtain ⟨arguments, hparse, rfl⟩ := exists_arguments_of_execute h
  refine ⟨arguments, hparse, ?_⟩
  rw [arguments.execute_eq, Arguments.config]
  dsimp only [BatchResult.code]
  cases (runBatch ⟨arguments.input, arguments.output⟩ files).outcome with
  | error f => simp
  | ok summary =>
    by_cases hfailed : summary.failed = 0
    · simp [hfailed]
    · simp [hfailed]

/-- **What a run reports is what it did.**  If a run comes to a summary, the summary agrees with
    the files and with what was printed (`Agrees`); and the exit code is 0 if the run came to a
    summary without failures, and 1 if not. -/
theorem summary_runBatch {files : FileTree} (hf : files.WellFormed) :
    (∀ config summary, (runBatch config files).outcome = .ok summary →
      ∃ made, files.createAll config.output = (made, .ok ()) ∧
        Agrees config files made (runBatch config files) summary) ∧
    ∀ env args execution, execute env args files = .ok execution →
      ∃ arguments, parseArguments env args = .ok arguments ∧
        (execution.code = 0 ↔ ∃ summary,
          (runBatch ⟨arguments.input, arguments.output⟩ files).outcome = .ok summary ∧
          summary.failed = 0) ∧
        (execution.code ≠ 0 → execution.code = 1) :=
  ⟨fun _ _ hok => agrees_runBatch hf hok, fun _ _ _ h => code_of_execute h⟩

theorem summary_runBatch_shelf :
    shelf.WellFormed ∧
    (runBatch ⟨"in", "in/d"⟩ shelf).outcome = .ok ⟨["in/d/d/a.yuck"], 1⟩ ∧
    (∃ made, shelf.createAll "in/d" = (made, .ok ()) ∧
      Agrees ⟨"in", "in/d"⟩ shelf made (runBatch ⟨"in", "in/d"⟩ shelf) ⟨["in/d/d/a.yuck"], 1⟩) ∧
    ∃ execution, execute {} ["in", "in/d"] shelf = .ok execution ∧ execution.code = 1 := by
  obtain ⟨hagrees, hcode⟩ := summary_runBatch wellFormed_shelf
  have hok : (runBatch ⟨"in", "in/d"⟩ shelf).outcome = .ok ⟨["in/d/d/a.yuck"], 1⟩ := by
    decide +kernel
  refine ⟨wellFormed_shelf, hok, hagrees _ _ hok, ?_⟩
  have hfailed : ((execute {} ["in", "in/d"] shelf).toOption.map Execution.code) ≠ some 0 := by
    decide +kernel
  have hruns : (execute {} ["in", "in/d"] shelf).toOption.isSome := by decide +kernel
  cases h : execute {} ["in", "in/d"] shelf with
  | error e =>
    rw [h] at hruns
    cases hruns
  | ok execution =>
    obtain ⟨-, -, -, hone⟩ := hcode {} ["in", "in/d"] execution h
    rw [h] at hfailed
    exact ⟨execution, rfl, hone fun hzero => hfailed (congrArg some hzero)⟩

end WidgetMarkup
