/-
  What happens if a run is repeated.

  The second run starts from the files that the first one left.  It converts the same files with
  the same results, and changes nothing.

  The walk may come to more than before, though.  A directory that the first run created after
  the directory around it was listed is there from the start now, and if its path is too long,
  it is an error of the walk.

  * `runBatch_again`: nothing else is different.
  * `runBatch_again_box`: this does happen.
-/
import WidgetMarkup.Proofs.Settling

namespace WidgetMarkup

open FileTree

/-! ## What is printed -/

/-- Whether something is printed of an event apart from log lines. -/
def Event.isVisible : Event → Bool
  | .remark _ => false
  | .diagnostic _ _ | .failure _ | .converted _ _ => true

/-- The events of which something is printed apart from log lines. -/
def visible (events : List Event) : List Event :=
  events.filter Event.isVisible

theorem visible_append (events more : List Event) :
    visible (events ++ more) = visible events ++ visible more :=
  List.filter_append _ _

theorem visible_essence (account : Account) :
    visible account.essence.events = visible account.events := by
  rw [visible, visible, Account.essence, List.filter_filter]
  congr 1
  funext event
  cases event with
  | remark r => cases r <;> rfl
  | diagnostic | failure | converted => rfl

/-- Texts that are empty for remarks come from the visible events only. -/
theorem join_map_visible {f : Event → String} (hf : ∀ r, f (.remark r) = "")
    (events : List Event) :
    String.join ((visible events).map f) = String.join (events.map f) := by
  induction events with
  | nil => rfl
  | cons event events ih =>
    rw [List.map_cons, String.join_cons, ← ih]
    cases event with
    | remark r =>
      rw [hf, String.empty_append]
      rfl
    | diagnostic | failure | converted => exact String.join_cons

theorem Style.events_visible (style : Style) (events : List Event) :
    style.events (visible events) = style.events events :=
  join_map_visible (fun _ => rfl) events

theorem announcements_visible (events : List Event) :
    announcements (visible events) = announcements events :=
  join_map_visible (fun _ => rfl) events

/-- An account with some failures more than another one, and nothing else. -/
structure Account.Extends (account more : Account) (failures : List Failure) : Prop where
  written : more.written = account.written
  failed : more.failed = account.failed + failures.length
  announced : announcements more.events = announcements account.events
  /-- What was printed is printed again, in the same order. -/
  sublist : (visible account.events).Sublist (visible more.events)
  perm : (visible more.events).Perm (visible account.events ++ failures.map .failure)

theorem Account.Extends.append {account more : Account} {failures : List Failure}
    (h : account.Extends more failures) (first : Account) :
    (first ++ account).Extends (first ++ more) failures where
  written := by rw [written_append, written_append, h.written]
  failed := by rw [failed_append, failed_append, h.failed, Nat.add_assoc]
  announced := by
    rw [events_append, events_append, announcements_append, announcements_append, h.announced]
  sublist := by
    rw [events_append, events_append, visible_append, visible_append]
    exact (List.Sublist.refl _).append h.sublist
  perm := by
    rw [events_append, events_append, visible_append, visible_append, List.append_assoc]
    exact h.perm.append_left _

theorem Account.Extends.insert {account more : Account} {failures : List Failure}
    (h : account.Extends more failures) (f : Failure) :
    account.Extends (.ofFailure f ++ more) (f :: failures) where
  written := h.written
  failed := by
    rw [failed_append, h.failed, List.length_cons]
    change 1 + _ = _
    omega
  announced := by
    rw [events_append, announcements_append, h.announced]
    exact String.empty_append
  sublist := h.sublist.cons _
  perm := (h.perm.cons _).trans List.perm_middle.symm

theorem Account.Extends.of_essence {account more : Account} {failures : List Failure}
    (h : account.essence.Extends more.essence failures) : account.Extends more failures where
  written := h.written
  failed := h.failed
  announced := by
    rw [← announcements_visible, ← visible_essence, announcements_visible, h.announced,
      ← announcements_visible, visible_essence, announcements_visible]
  sublist := by
    rw [← visible_essence account, ← visible_essence more]
    exact h.sublist
  perm := by
    rw [← visible_essence account, ← visible_essence more]
    exact h.perm

/-- A trail has more failures than the trail without some directories. -/
theorem extends_total {config : Config} {p : Stop × Account → Bool}
    (trail : List (Stop × Account))
    (h : ∀ x ∈ trail, p x = false → x.2 = .ofFailure (.walk (x.1.path config) .nameTooLong)) :
    (total (trail.filter p)).Extends (total trail)
      ((trail.filter (!p ·)).map fun x => .walk (x.1.path config) .nameTooLong) := by
  induction trail with
  | nil => exact ⟨rfl, rfl, rfl, .slnil, .refl _⟩
  | cons x trail ih =>
    obtain ⟨hx, htrail⟩ := List.forall_mem_cons.1 h
    have hrest := ih htrail
    cases hp : p x with
    | true =>
      rw [List.filter_cons_of_pos hp, List.filter_cons_of_neg (by simp [hp]), total_cons,
        total_cons]
      exact hrest.append x.2
    | false =>
      rw [List.filter_cons_of_neg (by simp [hp]), List.filter_cons_of_pos (by simp [hp]),
        total_cons, hx hp]
      exact hrest.insert _

/-! ## The second run -/

/-- An output directory that is there is found again. -/
theorem FileTree.createAll_again {files made last : FileTree} {output : String}
    (hf : files.WellFormed) (h : files.createAll output = (made, .ok ()))
    (hgrows : made.Grows last) :
    last.createAll output = (last, .ok ()) := by
  have hok : (files.createAll output).2 = .ok () := by rw [h]
  obtain ⟨loc, hlocate, hdir⟩ := leadsToDirectory_createAll hf hok
  rw [h] at hlocate hdir
  exact createChain_of_directoryAt (isOpen_of_createAll hok)
    (directoryAt_eq_ok_iff.2 ⟨hgrows.locate hlocate, hgrows.directory loc hdir⟩) _

/-- What is different in the second of two runs: `late` are the names behind the input of
    directories that the first run has created, and whose paths are too long. -/
structure Repeats (config : Config) (files : FileTree) (first again : BatchResult)
    (summary : Summary) (late : List (List String)) : Prop where
  files_eq : again.files = first.files
  outcome_eq : again.outcome = .ok ⟨summary.written, summary.failed + late.length⟩
  announced : announcements again.events = announcements first.events
  /-- What was printed is printed again, in the same order. -/
  sublist : (visible first.events).Sublist (visible again.events)
  /-- Besides, there is an error of the walk for each of the directories. -/
  perm : (visible again.events).Perm (visible first.events ++
    late.map fun names => .failure (.walk (Path.joinAll config.input names) .nameTooLong))
  ordered : late.Pairwise (· < ·)
  created : ∀ names ∈ late, ∃ loc, first.files.locate config.input = .ok loc ∧
    files.get? (loc ++ names) = none ∧ first.files.get? (loc ++ names) = some .directory ∧
    maxPathBytes < (Path.joinAll config.input names).utf8ByteSize

section
variable {config : Config} {files : FileTree} {summary : Summary}

theorem repeats_of_site (site : Site config) (hf : files.WellFormed)
    (hcreate : files.createAll config.output = (site.start, .ok ())) {e : Entry}
    (hget : site.start.get? site.input = some e)
    (hok : (runBatch config files).outcome = .ok summary) :
    ∃ late, Repeats config files (runBatch config files)
      (runBatch config (runBatch config files).files) summary late := by
  obtain ⟨account, trail, hwalk, hevents, houtcome, htrail⟩ :=
    exists_trail_runBatch site hcreate hget
  obtain rfl := Except.ok.inj (houtcome.symm.trans hok)
  have hopen : config.output = "" ∨ pathError? config.output = none :=
    isOpen_of_createAll (by rw [hcreate])
  have hpresent := site.present_input hget
  obtain ⟨hlast, -⟩ := hwalk.underway site.underway_start hpresent
  -- the second run takes place among the files that the first one left
  obtain ⟨e', hget', hkind⟩ := hlast.grows.get? hget
  obtain ⟨account', trail', -, hevents', houtcome', htrail'⟩ :=
    exists_trail_runBatch (site.next hlast) (createAll_again hf hcreate hlast.grows) hget'
  rw [hkind] at htrail'
  rw [Site.start_next] at hevents' houtcome' htrail'
  have hsettled := htrail.settled hwalk hpresent hlast hopen
  obtain ⟨hfiles, -⟩ := htrail.unchanged htrail' hsettled
  obtain ⟨p, hfilter, hlate⟩ := htrail.exists_late htrail' hsettled
  have hextends := extends_total trail' fun x hx hp =>
    htrail'.isTrail.account_of_directory x hx (hlate x hx hp).1
  rw [← hfilter, htrail.total_eq, htrail'.total_eq] at hextends
  have hextends := hextends.of_essence
  refine ⟨(trail'.filter (!p ·)).map (·.1.names), hfiles, ?_, ?_, ?_, ?_,
    List.pairwise_map.2 (htrail'.sorted.filter _), ?_⟩
  · rw [houtcome', hextends.written, hextends.failed, List.length_map, List.length_map]
  · rw [hevents, hevents', hextends.announced]
  · rw [hevents, hevents']
    exact hextends.sublist
  · rw [hevents, hevents']
    have hperm := hextends.perm
    rw [List.map_map] at hperm ⊢
    exact hperm
  · intro names hnames
    obtain ⟨x, hx, rfl⟩ := List.mem_map.1 hnames
    obtain ⟨hx, hp⟩ := List.mem_filter.1 hx
    obtain ⟨-, hnone, hdir, hsize⟩ := hlate x hx (by simpa using hp)
    refine ⟨site.input, hlast.grows.locate site.locate_input, ?_, hdir, hsize⟩
    have hadds := addsDirectories_createAll hf config.output
    rw [hcreate] at hadds
    by_contra hsome
    obtain ⟨e, he⟩ := Option.ne_none_iff_exists'.1 hsome
    rw [hadds.get?_of_some he] at hnone
    cases hnone

/-- **A run that is repeated changes nothing and reports the same**, but for one more failure for
    each directory that the first run has created and that has too long a path. -/
theorem runBatch_again (hf : files.WellFormed)
    (hok : (runBatch config files).outcome = .ok summary) :
    ∃ late,
      Repeats config files (runBatch config files)
        (runBatch config (runBatch config files).files) summary late ∧
      (late = [] →
        (runBatch config (runBatch config files).files).outcome = .ok summary ∧
        ∀ style : Style,
          style.events (runBatch config (runBatch config files).files).events =
            style.events (runBatch config files).events) := by
  suffices h : ∃ late, Repeats config files (runBatch config files)
      (runBatch config (runBatch config files).files) summary late by
    obtain ⟨late, hrepeats⟩ := h
    refine ⟨late, hrepeats, ?_⟩
    rintro rfl
    refine ⟨hrepeats.outcome_eq, fun style => ?_⟩
    have hperm := hrepeats.perm
    rw [List.map_nil, List.append_nil] at hperm
    rw [← style.events_visible, ← hrepeats.sublist.eq_of_length hperm.length_eq.symm,
      style.events_visible]
  rcases hcreate : files.createAll config.output with ⟨made, created⟩
  cases created with
  | error err =>
    rw [runBatch, hcreate] at hok
    cases hok
  | ok =>
    cases hfind : made.find config.input with
    | error err =>
      -- without an input the second run is the first one
      have hrun := runBatch_of_find_eq_error hcreate hfind
      have hagain := runBatch_of_find_eq_error (createAll_again hf hcreate (.refl made)) hfind
      rw [hrun] at hok ⊢
      obtain rfl := Except.ok.inj hok
      rw [hagain]
      exact ⟨[], rfl, rfl, rfl, .refl _, by rw [List.map_nil, List.append_nil], .nil,
        fun _ h => absurd h List.not_mem_nil⟩
    | ok found =>
      obtain ⟨loc, e⟩ := found
      obtain ⟨site, rfl, rfl⟩ := exists_site hf hcreate hfind
      exact repeats_of_site site hf hcreate (find_eq_ok_iff.1 hfind).2.2 hok

end

/-- The shelf, with a file that cannot be read and with results inside the input. -/
theorem runBatch_again_shelf :
    shelf.WellFormed ∧
    (runBatch ⟨"in", "in/d"⟩ shelf).outcome = .ok ⟨["in/d/d/a.yuck"], 1⟩ ∧
    Repeats ⟨"in", "in/d"⟩ shelf (runBatch ⟨"in", "in/d"⟩ shelf)
      (runBatch ⟨"in", "in/d"⟩ (runBatch ⟨"in", "in/d"⟩ shelf).files) ⟨["in/d/d/a.yuck"], 1⟩ [] ∧
    (runBatch ⟨"in", "in/d"⟩ (runBatch ⟨"in", "in/d"⟩ shelf).files).outcome =
      .ok ⟨["in/d/d/a.yuck"], 1⟩ ∧
    ∀ style : Style,
      style.events (runBatch ⟨"in", "in/d"⟩ (runBatch ⟨"in", "in/d"⟩ shelf).files).events =
        style.events (runBatch ⟨"in", "in/d"⟩ shelf).events := by
  have hok : (runBatch ⟨"in", "in/d"⟩ shelf).outcome = .ok ⟨["in/d/d/a.yuck"], 1⟩ := by
    decide +kernel
  have hagain : (runBatch ⟨"in", "in/d"⟩ (runBatch ⟨"in", "in/d"⟩ shelf).files).outcome =
      .ok ⟨["in/d/d/a.yuck"], 1⟩ := by decide +kernel
  obtain ⟨late, hrepeats, hsame⟩ := runBatch_again wellFormed_shelf hok
  -- no further error is counted, so no directory is too deep to be listed again
  obtain rfl : late = [] := by
    have hfailed : 1 = 1 + late.length := by
      have houtcome := hagain.symm.trans hrepeats.outcome_eq
      rw [Except.ok.injEq, Summary.mk.injEq] at houtcome
      exact houtcome.2
    exact List.length_eq_zero_iff.1 (by omega)
  exact ⟨wellFormed_shelf, hok, hrepeats, hsame rfl⟩

/-! ## A run that reports more when it is repeated -/

section
variable {config : Config} {stop : Stop} {stops : List Stop} {files files' : FileTree}
  {account : Account}

/-- A walk over a directory that is listed goes on inside it. -/
theorem Walks.of_listed {entries : List (String × Entry)}
    (h : Walks config (stop :: stops) files files' account) (hdir : stop.isDirectory = true)
    (hlist : files.readDirectory (stop.path config) = .ok entries) :
    ∃ mid first rest, Walks config (stop.inside entries) files mid first ∧
      Walks config stops mid files' rest ∧ account.failed = first.failed + rest.failed := by
  cases h with
  | skip hfile | convert hfile => cases hfile.symm.trans hdir
  | unlisted hdir' hlist' => cases hlist'.symm.trans hlist
  | list hdir' hlist' hinside hrest =>
    obtain rfl := Except.ok.inj (hlist'.symm.trans hlist)
    refine ⟨_, _, _, hinside, hrest, ?_⟩
    rw [Account.failed_append, Account.failed_append]
    exact congrArg (· + _) (Nat.zero_add _)

/-- A walk over an HTML file converts it. -/
theorem Walks.of_html (h : Walks config (stop :: stops) files files' account)
    (hfile : stop.isDirectory = false)
    (hhtml : Path.extension? (stop.path config) = some "html") :
    ∃ mid first rest, FileStep config (stop.path config) files mid first ∧
      Walks config stops mid files' rest ∧ account.failed = first.failed + rest.failed := by
  cases h with
  | skip hfile' hother => exact absurd hhtml hother
  | convert hfile' hhtml' hstep hrest => exact ⟨_, _, _, hstep, hrest, rfl⟩
  | unlisted hdir | list hdir => cases hdir.symm.trans hfile

end

theorem failed_le_total {trail : List (Stop × Account)} {x : Stop × Account} (hx : x ∈ trail) :
    x.2.failed ≤ (total trail).failed := by
  induction trail with
  | nil => nomatch hx
  | cons y trail ih =>
    rw [total_cons, Account.failed_append]
    rcases List.mem_cons.1 hx with rfl | hx
    · omega
    · exact (ih hx).trans (Nat.le_add_left _ _)

/-- One file in a directory of the input. -/
def box : FileTree where
  entries := [(["in"], .directory), (["in", "en"], .directory),
    (["in", "en", "x.html"], .file "<widget name=w>1</widget>".toUTF8)]

theorem wellFormed_box : box.WellFormed where
  sorted := by decide
  ne_root := by decide
  names := by decide
  parents := by
    simp only [box, List.forall_mem_cons]
    exact ⟨rfl, rfl, rfl, by simp⟩
  current := rfl

/-- The box with a directory for results inside the input. -/
def openBox : FileTree :=
  box.put ["in", "converted"] .directory

theorem createAll_box : box.createAll "in/converted" = (openBox, .ok ()) := rfl

theorem wellFormed_openBox : openBox.WellFormed := by
  have h := addsDirectories_createAll wellFormed_box "in/converted"
  rw [createAll_box] at h
  exact h.wellFormed

theorem convert_box : ∃ text, (convert "<widget name=w>1</widget>").1 = .ok text := by
  have hsome : (convert "<widget name=w>1</widget>").1.toOption.isSome := by decide +kernel
  cases h : (convert "<widget name=w>1</widget>").1 with
  | ok text => exact ⟨text, rfl⟩
  | error e =>
    rw [h] at hsome
    cases hsome

section
variable {input : String}

/-- Where a run takes place that finds the input in the box. -/
def boxSite (hpath : pathError? input = none) (hlocate : openBox.locate input = .ok ["in"]) :
    Site ⟨input, "in/converted"⟩ where
  start := openBox
  input := ["in"]
  output := ["in", "converted"]
  wellFormed := wellFormed_openBox
  pathError?_input := hpath
  locate_input := hlocate
  locate_output := show openBox.locate "in/converted" = _ by rfl
  get?_output := rfl

/-- Of the paths behind an input with 4085 bytes, one is too long. -/
theorem bounds_joinAll (hsize : input.utf8ByteSize = 4085) :
    (Path.joinAll input ["converted"]).utf8ByteSize ≤ maxPathBytes ∧
    maxPathBytes < (Path.joinAll input ["converted", "en"]).utf8ByteSize ∧
    (Path.joinAll input ["en"]).utf8ByteSize ≤ maxPathBytes ∧
    (Path.joinAll input ["en", "x.html"]).utf8ByteSize ≤ maxPathBytes := by
  have hmax : maxPathBytes = 4095 := rfl
  have hconverted : "converted".utf8ByteSize = 9 := rfl
  have hen : "en".utf8ByteSize = 2 := rfl
  have hx : "x.html".utf8ByteSize = 6 := rfl
  simp only [Path.joinAll, List.foldl_cons, List.foldl_nil]
  have h₁ := Path.utf8ByteSize_join_le input "converted"
  have h₂ := Path.utf8ByteSize_add_le_join input "converted"
  have h₃ := Path.utf8ByteSize_add_le_join (Path.join input "converted") "en"
  have h₄ := Path.utf8ByteSize_join_le input "en"
  have h₅ := Path.utf8ByteSize_join_le (Path.join input "en") "x.html"
  omega

variable (hsize : input.utf8ByteSize = 4085) (hpath : pathError? input = none)
  (hlocate : openBox.locate input = .ok ["in"]) {last : FileTree} {account : Account}
include hsize hpath hlocate

/-- The file in the box can be read. -/
theorem readText_box :
    openBox.readText (Path.joinAll input ["en", "x.html"]) = .ok "<widget name=w>1</widget>" := by
  obtain ⟨-, -, -, hshort⟩ := bounds_joinAll hsize
  have hget : openBox.get? (["in"] ++ ["en", "x.html"]) =
      some (.file "<widget name=w>1</widget>".toUTF8) := rfl
  have hfind := find_eq_ok_iff.2 ⟨(pathError?_joinAll hpath (by decide)).trans
    (if_neg (Nat.not_lt.2 hshort)), locate_joinAll wellFormed_openBox hlocate hget, hget⟩
  rw [readText, FileTree.read, hfind]
  rfl

omit hsize in
theorem isSource_box : (boxSite hpath hlocate).IsSource ["en", "x.html"] :=
  ⟨⟨"x.html", rfl, by decide⟩, "<widget name=w>1</widget>".toUTF8, rfl⟩

omit hsize in
/-- Nothing stands in the way of its result. -/
theorem clear_box :
    (boxSite hpath hlocate).creation? openBox ["en", "x.html"] = none ∧
    (boxSite hpath hlocate).writing? openBox ["en", "x.html"] = none := by
  have hs := isSource_box hpath hlocate
  constructor
  · have hdir : pathError? (Path.trimEnd (Path.joinAll "in/converted" ["en"])) = none := by decide
    have hclear : openBox.obstacle? ["in", "converted"] ["en"] = none := by decide
    have hinit : ["en", "x.html"].dropLast = ["en"] := rfl
    rw [Site.creation?, hs.targetDirectory_eq, hinit, if_neg (by decide), Option.or_eq_none_iff]
    exact ⟨hdir, hclear⟩
  · obtain ⟨name, hlast, -, -, -, htarget⟩ := hs.exists_name
    obtain rfl : "x.html" = name := Option.some.inj hlast
    have hext : Path.setExtension "yuck" "x.html" = "x.yuck" := by decide
    have hfile : pathError? (Path.joinAll "in/converted" ["en", "x.yuck"]) = none := by decide
    have hfree : ¬ (["in", "converted", "en", "x.yuck"].getLast? = some ".." ∨
        (openBox.get? ["in", "converted", "en", "x.yuck"]).any Entry.isDirectory) := by
      decide
    rw [Site.writing?, Site.target, outputPath, htarget, hext, Option.or_eq_none_iff]
    exact ⟨hfile, if_neg hfree⟩

/-- The file in the box is converted. -/
theorem fileStep_box
    (h : FileStep ⟨input, "in/converted"⟩ (Path.joinAll input ["en", "x.html"]) openBox last
      account) :
    account.failed = 0 ∧ last.get? ["in", "converted", "en"] = some .directory := by
  have hopen : pathError? "in/converted" = none := by decide
  obtain ⟨hcreation, hwriting⟩ := clear_box hpath hlocate
  obtain ⟨text, hconvert⟩ := convert_box
  obtain ⟨heffect, haccount⟩ := h.of_clear (isSource_box hpath hlocate)
    (boxSite hpath hlocate).underway_start (.inr hopen) (readText_box hsize hpath hlocate)
    hconvert hcreation
  rw [hwriting] at haccount
  refine ⟨?_, heffect.leading _ ⟨["en"], List.prefix_refl _, rfl⟩⟩
  rw [haccount]
  rfl

theorem walk_box (h : Walks ⟨input, "in/converted"⟩ [⟨[], true⟩] openBox last account) :
    account.failed = 0 ∧ last.get? ["in", "converted", "en"] = some .directory := by
  obtain ⟨hconverted, -, hen, -⟩ := bounds_joinAll hsize
  have hlist : ∀ stop : Stop, ∀ entries, openBox.get? (["in"] ++ stop.names) = some .directory →
      openBox.list (["in"] ++ stop.names) = entries →
      (Path.joinAll input stop.names).utf8ByteSize ≤ maxPathBytes →
      openBox.readDirectory (stop.path ⟨input, "in/converted"⟩) = .ok entries := by
    rintro stop entries hget rfl hshort
    refine Eq.trans (Site.Underway.readDirectory_eq (boxSite hpath hlocate).underway_start ?_)
      (if_neg (Nat.not_lt.2 hshort))
    exact hget
  obtain ⟨_, _, _, hinside, hdone, hfailed⟩ := h.of_listed rfl
    (hlist _ [("converted", .directory), ("en", .directory)] rfl rfl (hsize.trans_le (by decide)))
  cases hdone
  -- the directory for the results comes first, and it is empty
  obtain ⟨_, _, _, hdone, hrest, hfailed₁⟩ := hinside.of_listed rfl (hlist _ [] rfl rfl hconverted)
  cases hdone
  obtain ⟨_, _, _, hinside, hdone, hfailed₂⟩ := hrest.of_listed rfl
    (hlist _ [("x.html", .file "<widget name=w>1</widget>".toUTF8)] rfl rfl hen)
  cases hdone
  obtain ⟨_, _, _, hstep, hdone, hfailed₃⟩ := hinside.of_html rfl
    (Path.extension?_join _ (by decide))
  cases hdone
  obtain ⟨hnone, hdir⟩ := fileStep_box hsize hpath hlocate hstep
  refine ⟨?_, hdir⟩
  rw [hfailed, hfailed₁, hfailed₂, hfailed₃, hnone]
  rfl

/-- A second run fails where the first one did not. -/
theorem runBatch_box :
    ∃ written, (runBatch ⟨input, "in/converted"⟩ box).outcome = .ok ⟨written, 0⟩ ∧
      ∀ written', (runBatch ⟨input, "in/converted"⟩
        (runBatch ⟨input, "in/converted"⟩ box).files).outcome ≠ .ok ⟨written', 0⟩ := by
  let site := boxSite hpath hlocate
  have hget : openBox.get? ["in"] = some .directory := rfl
  obtain ⟨account, hwalk, -, houtcome⟩ := exists_walks_runBatch site createAll_box hget
  obtain ⟨hnone, hdir⟩ := walk_box hsize hpath hlocate hwalk
  obtain ⟨hlast, -⟩ := hwalk.underway site.underway_start (site.present_input hget)
  refine ⟨account.written, by rw [houtcome, hnone], fun written' hagain => ?_⟩
  obtain ⟨account', trail', -, -, houtcome', htrail'⟩ := exists_trail_runBatch (site.next hlast)
    (createAll_again wellFormed_box createAll_box hlast.grows) (hlast.grows.directory _ hget)
  rw [Site.start_next] at houtcome'
  -- the walk comes to the directory that the first run has created
  obtain ⟨hshort, hlong, -⟩ := bounds_joinAll hsize
  obtain ⟨account'', hmem⟩ := htrail'.complete _ List.mem_cons_self ⟨["converted", "en"], true⟩
    ⟨List.nil_prefix, .inr hshort, nofun, fun _ => ⟨hdir, hlong⟩⟩
  have hfailed := failed_le_total hmem
  rw [htrail'.isTrail.account_of_directory _ hmem rfl, htrail'.total_eq] at hfailed
  rw [houtcome', Except.ok.injEq, Summary.mk.injEq] at hagain
  exact absurd hagain.2 (Nat.ne_of_gt hfailed)

end

/-- A path of 4085 bytes to the input. -/
def crampedInput : String :=
  "in" ++ String.ofList (List.replicate 4083 '/')

/-- **A run that is repeated may report more**: the first run creates a directory whose path,
    spelled from the input, is too long. -/
theorem runBatch_again_box :
    box.WellFormed ∧
    ∃ summary, (runBatch ⟨crampedInput, "in/converted"⟩ box).outcome = .ok summary ∧
      (runBatch ⟨crampedInput, "in/converted"⟩
        (runBatch ⟨crampedInput, "in/converted"⟩ box).files).outcome ≠ .ok summary := by
  have hsize : crampedInput.utf8ByteSize = 4085 := utf8ByteSize_slashes 4083
  have hpath : pathError? crampedInput = none := pathError?_slashes (by decide)
  have hlocate : openBox.locate crampedInput = .ok ["in"] := locate_slashes rfl rfl 4083
  obtain ⟨written, hfirst, hagain⟩ := runBatch_box hsize hpath hlocate
  exact ⟨wellFormed_box, _, hfirst, hagain written⟩

end WidgetMarkup
