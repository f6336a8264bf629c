/-
  Whole runs.

  * `Walks.composed`: what holds of the parts of a walk and of one part after the other
    holds of the walk; with it, the invariant is kept by every walk.
  * `exists_walks_visitDirectory`: the bound on the depth is never reached, because nothing
    is added deeper than it allows.
  * `exists_walks_runBatch`: a run is a walk from the input, over the files that are there
    once the output directory is.
-/
import WidgetMarkup.Proofs.Targets

namespace WidgetMarkup

open FileTree

namespace FileTree

variable {files : FileTree} {loc : Location} {path : String} {entries : List (String × Entry)}

theorem readDirectory_eq_ok_iff :
    files.readDirectory path = .ok entries ↔
      ∃ loc, files.find path = .ok (loc, .directory) ∧ entries = files.list loc := by
  rw [readDirectory]
  cases hfind : files.find path with
  | error e => simp
  | ok found =>
    obtain ⟨loc, e⟩ := found
    cases e with
    | directory => simp [eq_comm]
    | file content => simp

end FileTree

/-! ## The invariant of a walk -/

section
variable {config : Config} {site : Site config} {files files' : FileTree} {stop : Stop}
  {stops : List Stop} {account : Account} {entries : List (String × Entry)}

/-- The stops of a walk are entries below the input. -/
def Site.Present (site : Site config) (files : FileTree) (stops : List Stop) : Prop :=
  ∀ stop ∈ stops, ∃ e, files.get? (site.input ++ stop.names) = some e ∧
    e.isDirectory = stop.isDirectory

theorem Site.Present.grows (h : site.Present files stops) (hgrows : files.Grows files') :
    site.Present files' stops := by
  intro stop hstop
  obtain ⟨e, hget, he⟩ := h stop hstop
  obtain ⟨e', hget', he'⟩ := hgrows.get? hget
  exact ⟨e', hget', he'.trans he⟩

theorem Site.Present.of_cons (h : site.Present files (stop :: stops)) :
    site.Present files stops :=
  fun s hs => h s (List.mem_cons_of_mem _ hs)

theorem Site.Present.get?_directory (h : site.Present files (stop :: stops))
    (hdir : stop.isDirectory = true) :
    files.get? (site.input ++ stop.names) = some .directory := by
  obtain ⟨e, hget, he⟩ := h stop List.mem_cons_self
  cases e with
  | directory => exact hget
  | file => cases he.trans hdir

theorem Site.Present.exists_content (h : site.Present files (stop :: stops))
    (hfile : stop.isDirectory = false) :
    ∃ content, files.get? (site.input ++ stop.names) = some (.file content) := by
  obtain ⟨e, hget, he⟩ := h stop List.mem_cons_self
  cases e with
  | directory => cases he.trans hfile
  | file content => exact ⟨content, hget⟩

/-- Stops are found where their names lead. -/
theorem Site.Underway.locate_path (hU : site.Underway files) {e : Entry}
    (hget : files.get? (site.input ++ stop.names) = some e) :
    files.locate (stop.path config) = .ok (site.input ++ stop.names) :=
  locate_joinAll hU.wellFormed (hU.grows.locate site.locate_input) hget

/-- What is listed is what is in the directory. -/
theorem Site.Underway.entries_eq (hU : site.Underway files)
    (hget : files.get? (site.input ++ stop.names) = some .directory)
    (hlist : files.readDirectory (stop.path config) = .ok entries) :
    entries = files.list (site.input ++ stop.names) := by
  obtain ⟨loc, hfind, rfl⟩ := readDirectory_eq_ok_iff.1 hlist
  obtain ⟨-, hlocate, -⟩ := find_eq_ok_iff.1 hfind
  rw [hU.locate_path hget, Except.ok.injEq] at hlocate
  rw [hlocate]

theorem Site.Underway.present_inside (hU : site.Underway files)
    (hget : files.get? (site.input ++ stop.names) = some .directory)
    (hlist : files.readDirectory (stop.path config) = .ok entries) :
    site.Present files (stop.inside entries) := by
  rw [hU.entries_eq hget hlist]
  intro s hs
  obtain ⟨⟨name, e⟩, hmem, rfl⟩ := List.mem_map.1 hs
  refine ⟨e, ?_, rfl⟩
  rw [← List.append_assoc]
  exact hU.wellFormed.mem_list_iff.1 hmem

/-- A relation between the files before and after a part of a walk and the account of that
    part, which holds of remarks, walk errors and conversions of sources, and of one part after
    the other. -/
structure Site.Composes (site : Site config) (R : FileTree → FileTree → Account → Prop) :
    Prop where
  done : ∀ files, R files files {}
  skipped : ∀ files path, R files files (.ofEvents [.remark (.skippedFile path)])
  entered : ∀ files path, R files files (.ofEvents [.remark (.skippedDirectory path)])
  unlisted : ∀ files path e, R files files (.ofFailure (.walk path e))
  step : ∀ {names files files' account}, site.IsSource names → site.Underway files →
    FileStep config (Path.joinAll config.input names) files files' account →
    R files files' account
  append : ∀ {files mid files' first rest}, R files mid first → R mid files' rest →
    R files files' (first ++ rest)

/-- **What the parts of a walk do, the walk does**, and it keeps the invariant. -/
theorem Walks.composed {R : FileTree → FileTree → Account → Prop} (hR : site.Composes R)
    (h : Walks config stops files files' account) (hU : site.Underway files)
    (hpresent : site.Present files stops) :
    site.Underway files' ∧ files.Grows files' ∧ R files files' account := by
  induction h with
  | done files => exact ⟨hU, .refl _, hR.done files⟩
  | skip hfile hother hrest ih =>
    obtain ⟨hU', hgrows, hrestR⟩ := ih hU hpresent.of_cons
    exact ⟨hU', hgrows, hR.append (hR.skipped _ _) hrestR⟩
  | convert hfile hhtml hstep hrest ih =>
    obtain ⟨content, hget⟩ := hpresent.exists_content hfile
    have hs := hU.isSource hget hhtml
    obtain ⟨hmid, hfirst⟩ := hstep.underway hs hU
    obtain ⟨hU', hgrows, hrestR⟩ := ih hmid (hpresent.of_cons.grows hfirst)
    exact ⟨hU', hfirst.trans hgrows, hR.append (hR.step hs hU hstep) hrestR⟩
  | unlisted hdir hlist hrest ih =>
    obtain ⟨hU', hgrows, hrestR⟩ := ih hU hpresent.of_cons
    exact ⟨hU', hgrows, hR.append (hR.append (hR.entered _ _) (hR.unlisted _ _ _)) hrestR⟩
  | list hdir hlist hinside hrest ihinside ih =>
    have hget := hpresent.get?_directory hdir
    obtain ⟨hmid, hfirst, hinsideR⟩ := ihinside hU (hU.present_inside hget hlist)
    obtain ⟨hU', hgrows, hrestR⟩ := ih hmid (hpresent.of_cons.grows hfirst)
    exact ⟨hU', hfirst.trans hgrows, hR.append (hR.append (hR.entered _ _) hinsideR) hrestR⟩

theorem Walks.underway (h : Walks config stops files files' account) (hU : site.Underway files)
    (hpresent : site.Present files stops) : site.Underway files' ∧ files.Grows files' := by
  have hR : site.Composes fun _ _ _ => True := by constructor <;> intros <;> trivial
  obtain ⟨hU', hgrows, -⟩ := h.composed hR hU hpresent
  exact ⟨hU', hgrows⟩

/-! ## The bound on the depth -/

theorem exists_walks_visitFile (config : Config) (stop : Stop) (files : FileTree)
    (hfile : stop.isDirectory = false) :
    ∃ files' account, (visitFile config (stop.path config)).Yields files () files' account ∧
      Walks config [stop] files files' account := by
  rw [visitFile]
  by_cases hhtml : Path.extension? (stop.path config) = some "html"
  · rw [if_pos (by simpa using hhtml)]
    obtain ⟨files', account, hyields, hstep⟩ := exists_fileStep config (stop.path config) files
    have hwalk := Walks.convert hfile hhtml hstep (.done files')
    rw [Account.append_nil] at hwalk
    exact ⟨files', account, hyields, hwalk⟩
  · rw [if_neg (by simpa using hhtml)]
    have hwalk := Walks.skip hfile hhtml (.done files)
    rw [Account.append_nil] at hwalk
    exact ⟨files, _, Batch.yields_remark _ _, hwalk⟩

/-- The entries of a directory, if the directories among them can be visited. -/
theorem exists_walks_inside {depth : Nat}
    (hvisit : ∀ files name, site.Underway files →
      files.get? (site.input ++ (stop.names ++ [name])) = some .directory →
      ∃ files' account,
        (visitDirectory config depth (Path.join (stop.path config) name)).Yields files () files'
          account ∧
        Walks config [⟨stop.names ++ [name], true⟩] files files' account)
    (entries : List (String × Entry)) (hU : site.Underway files)
    (hpresent : site.Present files (stop.inside entries)) :
    ∃ files' account,
      (entries.forM fun (name, e) =>
        match e with
        | .directory => visitDirectory config depth (Path.join (stop.path config) name)
        | .file _ => visitFile config (Path.join (stop.path config) name)).Yields files () files'
          account ∧
      Walks config (stop.inside entries) files files' account := by
  induction entries generalizing files with
  | nil => exact ⟨files, {}, Batch.yields_pure _ _, .done files⟩
  | cons x entries ih =>
    obtain ⟨name, e⟩ := x
    have hfirst : ∃ mid first,
        (match e with
          | .directory => visitDirectory config depth (Path.join (stop.path config) name)
          | .file _ => visitFile config (Path.join (stop.path config) name)).Yields files () mid
            first ∧
        Walks config [⟨stop.names ++ [name], e.isDirectory⟩] files mid first := by
      cases e with
      | directory => exact hvisit files name hU (hpresent.get?_directory rfl)
      | file content =>
        have h := exists_walks_visitFile config ⟨stop.names ++ [name], false⟩ files rfl
        rwa [Stop.path, Path.joinAll_concat] at h
    obtain ⟨mid, first, hyields, hwalk⟩ := hfirst
    have hone : site.Present files [⟨stop.names ++ [name], e.isDirectory⟩] := by
      intro s hs
      exact hpresent s (List.mem_cons.2 (.inl (List.mem_singleton.1 hs)))
    obtain ⟨hmid, hgrows⟩ := hwalk.underway hU hone
    obtain ⟨files', rest, hyieldsrest, hwalkrest⟩ := ih hmid (hpresent.of_cons.grows hgrows)
    exact ⟨files', first ++ rest, hyields.bind hyieldsrest, hwalk.append hwalkrest⟩

/-- **The bound on the depth is never reached**: below a directory that stands `n` names deep,
    `2 * depth + 1 - n` levels are enough. -/
theorem exists_walks_visitDirectory (depth : Nat) (names : List String)
    (hU : site.Underway files)
    (hget : files.get? (site.input ++ names) = some .directory)
    (hdepth : 2 * site.start.depth < (site.input ++ names).length + depth) :
    ∃ files' account,
      (visitDirectory config depth (Path.joinAll config.input names)).Yields files () files'
        account ∧
      Walks config [⟨names, true⟩] files files' account := by
  induction depth generalizing files names with
  | zero =>
    -- the directory would stand deeper than anything in the tree of a run does
    exact absurd (hU.shallow _ _ hget) (Nat.not_le.2 hdepth)
  | succ depth ih =>
    let stop : Stop := ⟨names, true⟩
    cases hlist : files.readDirectory (stop.path config) with
    | error e =>
      have hwalk := Walks.unlisted rfl hlist (.done files)
      rw [Account.append_nil] at hwalk
      refine ⟨files, _, ?_, hwalk⟩
      refine Batch.yields_get ?_
      rintro p rfl
      dsimp only
      rw [show p.files.readDirectory (Path.joinAll config.input names) = .error e from hlist]
      exact (Batch.yields_remark _ _).bind (Batch.yields_fail _ _)
    | ok entries =>
      have hvisit : ∀ files name, site.Underway files →
          files.get? (site.input ++ (stop.names ++ [name])) = some .directory →
          ∃ files' account,
            (visitDirectory config depth (Path.join (stop.path config) name)).Yields files ()
              files' account ∧
            Walks config [⟨stop.names ++ [name], true⟩] files files' account := by
        intro files name hU hget
        rw [Stop.path, ← Path.joinAll_concat]
        refine ih _ hU hget ?_
        change _ < (site.input ++ (names ++ [name])).length + depth
        simp only [List.length_append, List.length_singleton] at hdepth ⊢
        omega
      obtain ⟨files', account, hyields, hinside⟩ :=
        exists_walks_inside hvisit entries hU (hU.present_inside hget hlist)
      have hwalk := Walks.list rfl hlist hinside (.done files')
      rw [Account.append_nil] at hwalk
      refine ⟨files', _, ?_, hwalk⟩
      refine Batch.yields_get ?_
      rintro p rfl
      dsimp only
      rw [show p.files.readDirectory (Path.joinAll config.input names) = .ok entries from hlist]
      exact (Batch.yields_remark _ _).bind hyields

end

/-! ## Runs -/

section
variable {config : Config} {files made : FileTree} {loc : Location} {e : Entry}

/-- Where a run takes place whose output directory could be created and whose input is there. -/
theorem exists_site (hf : files.WellFormed)
    (hcreate : files.createAll config.output = (made, .ok ()))
    (hfind : made.find config.input = .ok (loc, e)) :
    ∃ site : Site config, site.start = made ∧ site.input = loc := by
  have hadds := addsDirectories_createAll hf config.output
  have hok : (files.createAll config.output).2 = .ok () := by rw [hcreate]
  obtain ⟨output, hlocate, hget⟩ := leadsToDirectory_createAll hf hok
  rw [hcreate] at hadds hlocate hget
  obtain ⟨hpath, hinput, -⟩ := find_eq_ok_iff.1 hfind
  exact ⟨⟨made, loc, output, hadds.wellFormed, hpath, hinput, hlocate, hget⟩, rfl, rfl⟩

/-- A walk starts at the input. -/
theorem Site.present_input (site : Site config) (hget : site.start.get? site.input = some e) :
    site.Present site.start [⟨[], e.isDirectory⟩] := by
  intro stop hstop
  obtain rfl := List.mem_singleton.1 hstop
  exact ⟨e, by rwa [List.append_nil], rfl⟩

/-- **A run is a walk** from its input, over the files that are there once the output
    directory is. -/
theorem exists_walks_runBatch (site : Site config)
    (hcreate : files.createAll config.output = (site.start, .ok ()))
    (hget : site.start.get? site.input = some e) :
    ∃ account, Walks config [⟨[], e.isDirectory⟩] site.start (runBatch config files).files account ∧
      (runBatch config files).events = account.events ∧
      (runBatch config files).outcome = .ok ⟨account.written, account.failed⟩ := by
  have hfind : site.start.find config.input = .ok (site.input, e) :=
    find_eq_ok_iff.2 ⟨site.pathError?_input, site.locate_input, hget⟩
  have hvisit : ∃ files' account, (visitInput config).Yields site.start () files' account ∧
      Walks config [⟨[], e.isDirectory⟩] site.start files' account := by
    cases e with
    | directory =>
      obtain ⟨files', account, hyields, hwalk⟩ := exists_walks_visitDirectory
        (2 * site.start.depth + 2) [] site.underway_start (by rwa [List.append_nil]) (by omega)
      refine ⟨files', account, ?_, hwalk⟩
      refine Batch.yields_get fun p hp => ?_
      dsimp only
      rw [hp, hfind]
      exact hyields
    | file content =>
      obtain ⟨files', account, hyields, hwalk⟩ :=
        exists_walks_visitFile config ⟨[], false⟩ site.start rfl
      refine ⟨files', account, ?_, hwalk⟩
      refine Batch.yields_get fun p hp => ?_
      dsimp only
      rw [hp, hfind]
      exact hyields
  obtain ⟨files', account, hyields, hwalk⟩ := hvisit
  refine ⟨account, ?_⟩
  have hrun := hyields { files := site.start } rfl
  rw [runBatch, hcreate]
  dsimp only
  rw [hrun]
  simpa [Progress.add] using hwalk

/-- Without an input there is one error. -/
theorem runBatch_of_find_eq_error {err : FileError}
    (hcreate : files.createAll config.output = (made, .ok ()))
    (hfind : made.find config.input = .error err) :
    runBatch config files =
      ⟨made, [.failure (.walk config.input err)], .ok ⟨[], 1⟩⟩ := by
  have hyields : (visitInput config).Yields made () made
      (.ofFailure (.walk config.input err)) := by
    refine Batch.yields_get fun p hp => ?_
    dsimp only
    rw [hp, hfind]
    exact Batch.yields_fail _ _
  have hrun := hyields { files := made } rfl
  rw [runBatch, hcreate]
  dsimp only
  rw [hrun]
  simp [Progress.add, Account.ofFailure]

end

end WidgetMarkup
