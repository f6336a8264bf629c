/-
  Which files a run converts.

  A walk comes to the HTML files that were below the input when it started, in the order of
  their names, although it lists directories that the run itself has added to.  The one thing
  that keeps it from a file is a directory on the way whose path is too long to be listed.

  * Names are in the order of their bytes (`utf8Bytes_lt`).
  * `Walks.exists_sources` says what a walk over stops converts, by the trail of the walk;
    `processed_runBatch` says it of a run.
-/
import WidgetMarkup.Proofs.Trails

namespace WidgetMarkup

open FileTree

/-! ## The order of names -/

/-- The bytes of a text. -/
def utf8Bytes (s : String) : List UInt8 :=
  s.toUTF8.data.toList

theorem utf8Bytes_eq (s : String) : utf8Bytes s = s.toList.flatMap String.utf8EncodeChar := by
  rw [utf8Bytes, String.toUTF8_eq_toByteArray, ← String.utf8Encode_toList, List.utf8Encode,
    List.toList_data_toByteArray]

theorem ofNat_cons_lt_ofNat_cons {a b : Nat} {l m : List UInt8} (hb : b < 256) (hle : a ≤ b)
    (h : a = b → l < m) : UInt8.ofNat a :: l < UInt8.ofNat b :: m := by
  rw [List.cons_lt_cons_iff]
  rcases Nat.lt_or_eq_of_le hle with hlt | heq
  · left
    rw [UInt8.lt_iff_toNat_lt, UInt8.toNat_ofNat', UInt8.toNat_ofNat', Nat.mod_eq_of_lt hb,
      Nat.mod_eq_of_lt (hlt.trans hb)]
    exact hlt
  · exact .inr ⟨congrArg _ heq, h heq⟩

/-- A greater character has greater bytes, whatever follows. -/
theorem utf8EncodeChar_append_lt {c d : Char} (h : c < d) (l m : List UInt8) :
    String.utf8EncodeChar c ++ l < String.utf8EncodeChar d ++ m := by
  have hlt : c.val.toNat < d.val.toNat := h
  have hd : d.val.toNat < 1114112 := by
    rcases d.valid with hd | hd <;> omega
  unfold String.utf8EncodeChar
  dsimp only
  generalize c.val.toNat = v at *
  generalize d.val.toNat = w at *
  -- bytes of the same place are digits, and a longer code starts with a greater byte
  split_ifs
  all_goals
    simp only [List.cons_append, List.nil_append]
    repeat' first
      | omega
      | refine ofNat_cons_lt_ofNat_cons (by omega) (by omega) fun _ => ?_

theorem utf8EncodeChar_ne_nil (c : Char) : String.utf8EncodeChar c ≠ [] := by
  unfold String.utf8EncodeChar
  dsimp only
  split_ifs <;> simp

/-- **The order of texts is that of their bytes.** -/
theorem utf8Bytes_lt {s t : String} (h : s < t) : utf8Bytes s < utf8Bytes t := by
  rw [String.lt_iff_toList_lt] at h
  rw [utf8Bytes_eq, utf8Bytes_eq]
  generalize s.toList = cs at *
  generalize t.toList = ds at *
  induction cs generalizing ds with
  | nil =>
    cases ds with
    | nil => cases h
    | cons d ds =>
      obtain ⟨b, bs, hb⟩ := List.exists_cons_of_ne_nil (utf8EncodeChar_ne_nil d)
      rw [List.flatMap_nil, List.flatMap_cons, hb]
      exact List.nil_lt_cons _ _
  | cons c cs ih =>
    cases ds with
    | nil => cases h
    | cons d ds =>
      rw [List.flatMap_cons, List.flatMap_cons]
      rcases List.cons_lt_cons_iff.1 h with hlt | ⟨rfl, hlt⟩
      · exact utf8EncodeChar_append_lt hlt _ _
      · exact List.Lex.append_left _ (ih _ hlt) _

theorem map_utf8Bytes_lt {names more : List String} (h : names < more) :
    names.map utf8Bytes < more.map utf8Bytes := by
  induction names generalizing more with
  | nil =>
    cases more with
    | nil => cases h
    | cons m more => exact List.nil_lt_cons _ _
  | cons n names ih =>
    cases more with
    | nil => cases h
    | cons m more =>
      rw [List.map_cons, List.map_cons, List.cons_lt_cons_iff]
      rcases List.cons_lt_cons_iff.1 h with hlt | ⟨rfl, hlt⟩
      · exact .inl (utf8Bytes_lt hlt)
      · exact .inr ⟨rfl, ih hlt⟩

/-! ## Processed files -/

/-- The file that an event is the start of. -/
def Event.processed? : Event → Option String
  | .remark (.processing path) => some path
  | _ => none

/-- The files that were processed, in order. -/
def processed (events : List Event) : List String :=
  events.filterMap Event.processed?

@[simp]
theorem processed_append (events more : List Event) :
    processed (events ++ more) = processed events ++ processed more :=
  List.filterMap_append

theorem processed_conversionEvents (path html : String) :
    processed (conversionEvents path html) = [path] := by
  simp [processed, conversionEvents, Event.processed?]

/-- A conversion processes one file. -/
theorem FileStep.processed_eq {config : Config} {path : String} {files files' : FileTree}
    {account : Account} (h : FileStep config path files files' account) :
    processed account.events = [path] := by
  cases h with
  | unreadable => rfl
  | untranslatable | uncreatable | unwritable | converted =>
    rw [Account.events_append, processed_append, Account.events_ofEvents,
      processed_conversionEvents]
    rfl

/-! ## What a walk converts -/

section
variable {config : Config} {site : Site config} {files files' : FileTree} {stops : List Stop}
  {account : Account}

/-- A source that a walk from an entry comes to: no directory on the way to it has a path
    that is too long. -/
def Site.Reaches (site : Site config) (names rel : List String) : Prop :=
  names <+: rel ∧ site.IsSource rel ∧
    (rel = names ∨ (Path.joinAll config.input rel.dropLast).utf8ByteSize ≤ maxPathBytes)

theorem Site.marks_file_iff_reaches {names rel : List String} :
    site.Marks files names ⟨rel, false⟩ ↔ site.Reaches names rel := by
  constructor
  · intro h
    exact ⟨h.below, h.file rfl, h.near⟩
  · rintro ⟨hbelow, hs, hnear⟩
    exact ⟨hbelow, hnear, fun _ => hs, nofun⟩

/-- The names of the files on a trail. -/
def sourcesOf (trail : List (Stop × Account)) : List (List String) :=
  (trail.filter (!·.1.isDirectory)).map (·.1.names)

theorem mem_sourcesOf {trail : List (Stop × Account)} {rel : List String} :
    rel ∈ sourcesOf trail ↔ ∃ account, (⟨rel, false⟩, account) ∈ trail := by
  rw [sourcesOf, List.mem_map]
  constructor
  · rintro ⟨⟨⟨names, isDirectory⟩, account⟩, hmem, rfl⟩
    obtain ⟨hmem, hfile⟩ := List.mem_filter.1 hmem
    obtain rfl : isDirectory = false := by simpa using hfile
    exact ⟨account, hmem⟩
  · rintro ⟨account, hmem⟩
    exact ⟨_, List.mem_filter.2 ⟨hmem, rfl⟩, rfl⟩

theorem processed_essence (account : Account) :
    processed account.essence.events = processed account.events :=
  account.filterMap_essence (fun _ => rfl) fun _ => rfl

/-- The files on a trail are processed. -/
theorem Trail.processed_eq {trail : List (Stop × Account)} (h : Trail config trail files files') :
    processed (total trail).events = (sourcesOf trail).map (Path.joinAll config.input) := by
  induction h with
  | done files => rfl
  | convert hfile hstep hrest ih =>
    rw [total_cons, Account.events_append, processed_append, hstep.processed_eq, ih, sourcesOf,
      sourcesOf, List.filter_cons_of_pos (by simp [hfile])]
    rfl
  | unlisted hdir hrest ih =>
    rw [total_cons, Account.events_append, processed_append, ih, sourcesOf, sourcesOf,
      List.filter_cons_of_neg (by simp [hdir])]
    rfl

theorem Site.Follows.processed_eq {trail : List (Stop × Account)}
    (h : site.Follows stops files files' account trail) :
    processed account.events = (sourcesOf trail).map (Path.joinAll config.input) := by
  rw [← processed_essence, ← h.total_eq, h.isTrail.processed_eq]

theorem Site.Follows.sorted_sources {trail : List (Stop × Account)}
    (h : site.Follows stops files files' account trail) :
    (sourcesOf trail).Pairwise (· < ·) := by
  rw [sourcesOf, List.pairwise_map]
  exact h.sorted.filter _

theorem Site.Follows.mem_sources_iff {trail : List (Stop × Account)}
    (h : site.Follows stops files files' account trail) (rel : List String) :
    rel ∈ sourcesOf trail ↔ ∃ stop ∈ stops, site.Reaches stop.names rel := by
  rw [mem_sourcesOf]
  constructor
  · rintro ⟨account, hmem⟩
    obtain ⟨stop, hstop, hmarks⟩ := h.marked _ hmem
    exact ⟨stop, hstop, marks_file_iff_reaches.1 hmarks⟩
  · rintro ⟨stop, hstop, hreach⟩
    exact h.complete stop hstop _ (marks_file_iff_reaches.2 hreach)

/-- **A walk over stops converts the sources that it reaches, in order, and nothing else.** -/
theorem Walks.exists_sources (h : Walks config stops files files' account)
    (hU : site.Underway files) (hpresent : site.Present files stops)
    (horder : stops.Pairwise Stop.Before) :
    ∃ rels : List (List String),
      processed account.events = rels.map (Path.joinAll config.input) ∧
      rels.Pairwise (· < ·) ∧
      ∀ rel, rel ∈ rels ↔ ∃ stop ∈ stops, site.Reaches stop.names rel := by
  obtain ⟨trail, htrail⟩ := h.exists_trail hU hpresent horder
  exact ⟨sourcesOf trail, htrail.processed_eq, htrail.sorted_sources, htrail.mem_sources_iff⟩

end

/-! ## What a run converts -/

section
variable {config : Config} {files made : FileTree} {loc : Location} {e : Entry}

theorem exists_sources_runBatch (site : Site config)
    (hcreate : files.createAll config.output = (site.start, .ok ()))
    (hget : site.start.get? site.input = some e) :
    ∃ (account : Account) (rels : List (List String)),
      Walks config [⟨[], e.isDirectory⟩] site.start (runBatch config files).files account ∧
      (runBatch config files).events = account.events ∧
      (runBatch config files).outcome = .ok ⟨account.written, account.failed⟩ ∧
      processed account.events = rels.map (Path.joinAll config.input) ∧
      rels.Pairwise (· < ·) ∧ ∀ rel, rel ∈ rels ↔ site.Reaches [] rel := by
  obtain ⟨account, hwalk, hevents, houtcome⟩ := exists_walks_runBatch site hcreate hget
  obtain ⟨rels, hprocessed, hsorted, hmem⟩ := hwalk.exists_sources site.underway_start
    (site.present_input hget) (List.pairwise_singleton _ _)
  refine ⟨account, rels, hwalk, hevents, houtcome, hprocessed, hsorted, fun rel => ?_⟩
  rw [hmem]
  simp

/-- **A run converts the HTML files that were there, in order, and ends.**  The walk over the
    input is finite; the files that it converts are those at or below the input that were there
    before the run and have the extension `html`, as far as no directory on the way to them has
    a path that is too long; each is converted once, and they come in the order of the bytes of
    their names. -/
theorem processed_runBatch (hf : files.WellFormed)
    (hcreate : files.createAll config.output = (made, .ok ()))
    (hfind : made.find config.input = .ok (loc, e)) :
    ∃ (account : Account) (rels : List (List String)),
      Walks config [⟨[], e.isDirectory⟩] made (runBatch config files).files account ∧
      (runBatch config files).events = account.events ∧
      (runBatch config files).outcome = .ok ⟨account.written, account.failed⟩ ∧
      processed (runBatch config files).events = rels.map (Path.joinAll config.input) ∧
      rels.Pairwise (fun rel more => rel.map utf8Bytes < more.map utf8Bytes) ∧
      (∀ rel ∈ rels, made.locate (Path.joinAll config.input rel) = .ok (loc ++ rel)) ∧
      ∀ rel, rel ∈ rels ↔
        HasHtmlName (loc ++ rel) ∧ (∃ content, files.get? (loc ++ rel) = some (.file content)) ∧
        (rel = [] ∨ (Path.joinAll config.input rel.dropLast).utf8ByteSize ≤ maxPathBytes) := by
  obtain ⟨site, rfl, rfl⟩ := exists_site hf hcreate hfind
  obtain ⟨account, rels, hwalk, hevents, houtcome, hprocessed, hsorted, hmem⟩ :=
    exists_sources_runBatch site hcreate (find_eq_ok_iff.1 hfind).2.2
  refine ⟨account, rels, hwalk, hevents, houtcome, ?_, hsorted.imp map_utf8Bytes_lt,
    fun rel hrel => ?_, fun rel => ?_⟩
  · rw [hevents, hprocessed]
  · obtain ⟨-, ⟨-, content, hfile⟩, -⟩ := (hmem rel).1 hrel
    exact locate_joinAll site.wellFormed site.locate_input hfile
  have hadds := addsDirectories_createAll hf config.output
  rw [hcreate] at hadds
  have hfile : ∀ content, site.start.get? (site.input ++ rel) = some (.file content) ↔
      files.get? (site.input ++ rel) = some (.file content) :=
    fun _ => ⟨hadds.get?_of_file, hadds.get?_of_some⟩
  rw [hmem, Site.Reaches, Site.IsSource]
  simp only [hfile, List.nil_prefix, true_and, and_assoc]

end

/-! ## Two files on a shelf -/

/-- Two HTML files in a directory of the input; the second one is no text. -/
def shelf : FileTree where
  entries := [(["in"], .directory), (["in", "d"], .directory),
    (["in", "d", "a.html"], .file "<widget name=w>1</widget>".toUTF8),
    (["in", "d", "b.html"], .file ⟨#[255]⟩)]

theorem wellFormed_shelf : shelf.WellFormed where
  sorted := by decide
  ne_root := by decide
  names := by decide
  parents := by
    simp only [shelf, List.forall_mem_cons]
    exact ⟨rfl, rfl, rfl, rfl, by simp⟩
  current := rfl

theorem processed_runBatch_shelf :
    shelf.WellFormed ∧
    shelf.createAll "in/d" = (shelf, .ok ()) ∧
    shelf.find "in" = .ok (["in"], .directory) ∧
    ∃ (account : Account) (rels : List (List String)),
      Walks ⟨"in", "in/d"⟩ [⟨[], true⟩] shelf (runBatch ⟨"in", "in/d"⟩ shelf).files account ∧
      (runBatch ⟨"in", "in/d"⟩ shelf).events = account.events ∧
      (runBatch ⟨"in", "in/d"⟩ shelf).outcome = .ok ⟨account.written, account.failed⟩ ∧
      processed (runBatch ⟨"in", "in/d"⟩ shelf).events = rels.map (Path.joinAll "in") ∧
      rels.Pairwise (fun rel more => rel.map utf8Bytes < more.map utf8Bytes) ∧
      (∀ rel ∈ rels, shelf.locate (Path.joinAll "in" rel) = .ok (["in"] ++ rel)) ∧
      ∀ rel, rel ∈ rels ↔
        HasHtmlName (["in"] ++ rel) ∧
        (∃ content, shelf.get? (["in"] ++ rel) = some (.file content)) ∧
        (rel = [] ∨ (Path.joinAll "in" rel.dropLast).utf8ByteSize ≤ maxPathBytes) := by
  have hcreate : shelf.createAll (Config.mk "in" "in/d").output = (shelf, .ok ()) := rfl
  have hfind : shelf.find (Config.mk "in" "in/d").input = .ok (["in"], .directory) := rfl
  exact ⟨wellFormed_shelf, hcreate, hfind, processed_runBatch wellFormed_shelf hcreate hfind⟩

/-- A path of 4095 bytes to the input. -/
def longInput : String :=
  "in" ++ String.ofList (List.replicate 4093 '/')

theorem slashes_succ (n : Nat) :
    "in" ++ String.ofList (List.replicate (n + 1) '/') =
      "in" ++ String.ofList (List.replicate n '/') ++ "/" := by
  rw [List.replicate_succ', String.ofList_append, String.append_assoc]

theorem utf8ByteSize_slashes (n : Nat) :
    ("in" ++ String.ofList (List.replicate n '/')).utf8ByteSize = n + 2 := by
  induction n with
  | zero => rfl
  | succ n ih =>
    rw [slashes_succ, String.utf8ByteSize_append, ih]
    rfl

theorem utf8ByteSize_longInput : longInput.utf8ByteSize = 4095 :=
  utf8ByteSize_slashes 4093

theorem locate_slashes {files : FileTree} (hin : files.locate "in" = .ok ["in"])
    (hget : files.get? ["in"] = some .directory) (n : Nat) :
    files.locate ("in" ++ String.ofList (List.replicate n '/')) = .ok ["in"] := by
  induction n with
  | zero => exact hin
  | succ n ih =>
    rw [slashes_succ, locate_slash (by simp)]
    exact ⟨ih, hget⟩

theorem pathError?_slashes {n : Nat} (h : n + 2 ≤ maxPathBytes) :
    pathError? ("in" ++ String.ofList (List.replicate n '/')) = none := by
  refine pathError?_eq_none_iff.2 ⟨?_, by simp, by rwa [utf8ByteSize_slashes]⟩
  simp

/-- The sources on the shelf are in one directory. -/
theorem dropLast_of_get?_shelf {rel : List String} {content : ByteArray}
    (h : shelf.get? (["in"] ++ rel) = some (.file content)) : rel.dropLast = ["d"] := by
  have hmem := wellFormed_shelf.mem_entries_iff.2 ⟨by simp, h⟩
  simp only [shelf, List.mem_cons, Prod.mk.injEq, List.singleton_append, List.cons.injEq,
    true_and, reduceCtorEq, and_false, false_or, List.not_mem_nil, or_false] at hmem
  rcases hmem with ⟨rfl, -⟩ | ⟨rfl, -⟩ <;> rfl

/-- **A file that was there is not always converted**: the directory around it has a path of
    4096 bytes and cannot be listed. -/
theorem processed_runBatch_longInput :
    shelf.WellFormed ∧
    (∃ made, shelf.createAll "out" = (made, .ok ()) ∧
      made.find longInput = .ok (["in"], .directory)) ∧
    HasHtmlName ["in", "d", "a.html"] ∧
    shelf.get? ["in", "d", "a.html"] = some (.file "<widget name=w>1</widget>".toUTF8) ∧
    processed (runBatch ⟨longInput, "out"⟩ shelf).events = [] := by
  let config : Config := ⟨longInput, "out"⟩
  have hcreate : shelf.createAll config.output = (shelf.put ["out"] .directory, .ok ()) :=
    show shelf.createAll "out" = _ by rfl
  have hlocate : (shelf.put ["out"] .directory).locate longInput = .ok ["in"] :=
    locate_slashes rfl rfl 4093
  have hfind : (shelf.put ["out"] .directory).find config.input = .ok (["in"], .directory) :=
    find_eq_ok_iff.2 ⟨pathError?_slashes (by decide), hlocate, rfl⟩
  refine ⟨wellFormed_shelf, ⟨_, hcreate, hfind⟩, ⟨"a.html", rfl, by decide⟩, rfl, ?_⟩
  obtain ⟨site, hstart, hinput⟩ := exists_site wellFormed_shelf hcreate hfind
  have hget : site.start.get? site.input = some .directory := by
    rw [hstart, hinput]
    rfl
  obtain ⟨account, rels, -, hevents, -, hprocessed, -, hmem⟩ :=
    exists_sources_runBatch site (hstart ▸ hcreate) hget
  have hnone : rels = [] := by
    refine List.eq_nil_iff_forall_not_mem.2 fun rel hrel => ?_
    obtain ⟨-, ⟨-, content, hfile⟩, hreach⟩ := (hmem rel).1 hrel
    have hadds := addsDirectories_createAll wellFormed_shelf config.output
    rw [hcreate] at hadds
    rw [hstart, hinput] at hfile
    have hdrop := dropLast_of_get?_shelf (hadds.get?_of_file hfile)
    rw [hdrop] at hreach
    rcases hreach with rfl | hreach
    · cases hdrop
    · have hsize : config.input.utf8ByteSize = 4095 := utf8ByteSize_longInput
      have hlong := Path.utf8ByteSize_add_le_join config.input "d"
      rw [hsize] at hlong
      rw [Path.joinAll_cons] at hreach
      have hshort := (Path.utf8ByteSize_le_joinAll _ _).trans hreach
      exact absurd (hlong.trans hshort) (by decide)
  rw [hevents, hprocessed, hnone]
  rfl

end WidgetMarkup
