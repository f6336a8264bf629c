/-
  Walks as sequences of what they come to.

  A walk goes into directories and comes out of them.  Seen from outside, it converts one file
  after the other, and now and then it meets a directory that it cannot list.

  * `Trail` is such a sequence, each stop with its own account; `Walks.exists_trail` says that
    every walk has one, and what is on it.
  * A trail is in the order of names.  It has the sources that the walk comes to, whatever the
    run itself adds (`Site.Reaches`).  The directories on it have paths that are too long; all
    that were there when the walk started are on it, and all that are on it are there in the
    end (`Site.Marks`).
-/
import WidgetMarkup.Proofs.Runs

namespace WidgetMarkup

open FileTree

/-! ## The order of stops -/

/-- What is behind two names is in their order, unless one leads to the other. -/
theorem append_lt_append_of_not_prefix {names more : List String} (h : names < more)
    (hnot : ¬ names <+: more) (xs ys : List String) : names ++ xs < more ++ ys := by
  induction names generalizing more with
  | nil => exact absurd (List.nil_prefix) hnot
  | cons n names ih =>
    cases more with
    | nil => cases h
    | cons m more =>
      rw [List.cons_append, List.cons_append, List.cons_lt_cons_iff]
      rcases List.cons_lt_cons_iff.1 h with hlt | ⟨rfl, hlt⟩
      · exact .inl hlt
      · refine .inr ⟨rfl, ih hlt fun hprefix => hnot ?_⟩
        exact (List.prefix_cons_inj n).2 hprefix

/-- The order in which a walk comes to its stops. -/
def Stop.Before (stop other : Stop) : Prop :=
  stop.names < other.names ∧ ¬ stop.names <+: other.names

theorem Stop.Before.lt {stop other : Stop} (h : stop.Before other) {names more : List String}
    (hnames : stop.names <+: names) (hmore : other.names <+: more) : names < more := by
  obtain ⟨xs, rfl⟩ := hnames
  obtain ⟨ys, rfl⟩ := hmore
  exact append_lt_append_of_not_prefix h.1 h.2 xs ys

theorem pairwise_before_inside {files : FileTree} (hf : files.WellFormed) (stop : Stop)
    (dir : Location) : (stop.inside (files.list dir)).Pairwise Stop.Before := by
  rw [Stop.inside, List.pairwise_map]
  refine (hf.pairwise_list dir).imp ?_
  rintro ⟨name, e⟩ ⟨name', e'⟩ hlt
  constructor
  · rw [append_lt_append_iff]
    exact List.cons_lt_cons_iff.2 (.inl hlt)
  · intro hprefix
    have heq := hprefix.eq_of_length (by simp)
    rw [List.append_cancel_left_eq, List.singleton_inj] at heq
    exact absurd hlt (heq ▸ lt_irrefl _)

/-! ## Directories that can be listed -/

theorem FileTree.pathError?_eq_none_iff {path : String} :
    pathError? path = none ↔
      '\x00' ∉ path.toList ∧ path ≠ "" ∧ path.utf8ByteSize ≤ maxPathBytes := by
  constructor
  · intro h
    exact ⟨notMem_nul_of_pathError? h, ne_empty_of_pathError? h, size_le_of_pathError? h⟩
  · rintro ⟨hnul, hne, hsize⟩
    rw [pathError?, if_neg (by simpa using hnul), if_neg (by simpa using hne),
      if_neg (Nat.not_lt.2 hsize)]

/-- Names make a path longer, and nothing else can be wrong with it. -/
theorem FileTree.pathError?_joinAll {path : String} (hpath : pathError? path = none)
    {names : List String} (hnames : ∀ n ∈ names, IsName n) :
    pathError? (Path.joinAll path names) =
      if maxPathBytes < (Path.joinAll path names).utf8ByteSize then some .nameTooLong
      else none := by
  have hnul : '\x00' ∉ (Path.joinAll path names).toList := by
    induction names using List.reverseRecOn with
    | nil => exact notMem_nul_of_pathError? hpath
    | append_singleton names name ih =>
      rw [Path.joinAll_concat]
      obtain ⟨gap, hlist, hgap⟩ := Path.join_toList (Path.joinAll path names) name
      rw [hlist]
      simp only [List.mem_append, not_or]
      refine ⟨⟨ih fun n hn => hnames n (by simp [hn]), fun hmem => ?_⟩,
        (hnames name (by simp)).no_nul⟩
      exact absurd (hgap _ hmem) (by decide)
  have hne : Path.joinAll path names ≠ "" := by
    rcases List.eq_nil_or_concat' names with rfl | ⟨init, name, rfl⟩
    · exact ne_empty_of_pathError? hpath
    · rw [Path.joinAll_concat]
      exact Path.join_ne_empty _ (hnames name (by simp)).ne_empty
  rw [pathError?, if_neg (by simpa using hnul), if_neg (by simpa using hne)]

section
variable {config : Config} {site : Site config} {files files' : FileTree} {stop : Stop}
  {stops : List Stop} {account : Account}

/-- A directory is listed if its path is not too long, and else the error says that it is. -/
theorem Site.Underway.readDirectory_eq (hU : site.Underway files)
    (hget : files.get? (site.input ++ stop.names) = some .directory) :
    files.readDirectory (stop.path config) =
      if maxPathBytes < (stop.path config).utf8ByteSize then .error .nameTooLong
      else .ok (files.list (site.input ++ stop.names)) := by
  have hpath := pathError?_joinAll site.pathError?_input
    fun n hn => hU.wellFormed.isName hget n (List.mem_append_right _ hn)
  rw [← Stop.path] at hpath
  split_ifs at hpath ⊢ with hsize
  · rw [readDirectory, find, hpath]
  · rw [readDirectory, find_eq_ok_iff.2 ⟨hpath, hU.locate_path hget, hget⟩]

/-! ## What a walk comes to -/

/-- A stop that a walk from an entry comes to: a source, or a directory that cannot be listed.
    No directory on the way to it has a path that is too long. -/
structure Site.Marks (site : Site config) (files : FileTree) (names : List String) (stop : Stop) :
    Prop where
  below : names <+: stop.names
  near : stop.names = names ∨
    (Path.joinAll config.input stop.names.dropLast).utf8ByteSize ≤ maxPathBytes
  file : stop.isDirectory = false → site.IsSource stop.names
  directory : stop.isDirectory = true →
    files.get? (site.input ++ stop.names) = some .directory ∧
      maxPathBytes < (stop.path config).utf8ByteSize

theorem Site.Marks.grows {names : List String} (h : site.Marks files names stop)
    (hgrows : files.Grows files') : site.Marks files' names stop :=
  ⟨h.below, h.near, h.file, fun hdir =>
    ⟨hgrows.directory _ (h.directory hdir).1, (h.directory hdir).2⟩⟩

/-- A source is below a directory, not at it. -/
theorem Site.Underway.ne_of_isSource (hU : site.Underway files) {names rel : List String}
    (hget : files.get? (site.input ++ names) = some .directory) (hs : site.IsSource rel) :
    rel ≠ names := by
  rintro rfl
  obtain ⟨hname, content, hfile⟩ := hs
  rw [hU.get?_source hname hfile] at hget
  cases hget

/-- There is an entry at what a walk comes to. -/
theorem Site.Marks.exists_get? {names : List String} (h : site.Marks files names stop)
    (hU : site.Underway files) : ∃ e, files.get? (site.input ++ stop.names) = some e := by
  cases hdir : stop.isDirectory with
  | true => exact ⟨_, (h.directory hdir).1⟩
  | false =>
    obtain ⟨hname, content, hfile⟩ := h.file hdir
    exact ⟨_, hU.get?_source hname hfile⟩

/-- From a file a walk comes to that file only, if it has the extension. -/
theorem Site.Present.marks_file_iff (hpresent : site.Present files (stop :: stops))
    (hU : site.Underway files) (hfile : stop.isDirectory = false) (other : Stop) :
    site.Marks files stop.names other ↔
      other = stop ∧ Path.extension? (stop.path config) = some "html" := by
  obtain ⟨content, hget⟩ := hpresent.exists_content hfile
  constructor
  · intro h
    obtain ⟨e, he⟩ := h.exists_get? hU
    obtain ⟨xs, hxs⟩ := h.below
    rw [← hxs, ← List.append_assoc] at he
    obtain rfl := hU.wellFormed.eq_nil_of_file hget he
    rw [List.append_nil] at hxs
    cases hdir : other.isDirectory with
    | true =>
      have hbad := (h.directory hdir).1
      rw [← hxs, hget] at hbad
      cases hbad
    | false =>
      obtain ⟨⟨name, hlast, hhtml⟩, -⟩ := h.file hdir
      obtain ⟨name', hlast', -, -, hext, -⟩ := hU.exists_name hget
      rw [← hxs, hlast', Option.some.injEq] at hlast
      refine ⟨?_, by rw [Stop.path, hext, hlast]; exact hhtml⟩
      cases stop
      cases other
      simp_all
  · rintro ⟨rfl, hhtml⟩
    exact ⟨List.prefix_refl _, .inl rfl, fun _ => hU.isSource hget hhtml, by simp [hfile]⟩

/-- From a directory that cannot be listed a walk comes to nothing else. -/
theorem Site.Present.marks_unlisted_iff (hpresent : site.Present files (stop :: stops))
    (hU : site.Underway files) (hdir : stop.isDirectory = true)
    (hsize : maxPathBytes < (stop.path config).utf8ByteSize) (other : Stop) :
    site.Marks files stop.names other ↔ other = stop := by
  have hget := hpresent.get?_directory hdir
  constructor
  · intro h
    have hnames : other.names = stop.names := by
      by_contra hne
      obtain ⟨xs, hxs⟩ := h.below
      have hxsne : xs ≠ [] := by
        rintro rfl
        exact hne (by rw [← hxs, List.append_nil])
      have hlong := h.near.resolve_left hne
      rw [← hxs, List.dropLast_append_of_ne_nil hxsne, Path.joinAll_append] at hlong
      exact absurd ((Path.utf8ByteSize_le_joinAll _ _).trans hlong) (Nat.not_le.2 hsize)
    cases hother : other.isDirectory with
    | true =>
      cases stop
      cases other
      simp_all
    | false => exact absurd hnames (hU.ne_of_isSource hget (h.file hother))
  · rintro rfl
    exact ⟨List.prefix_refl _, .inl rfl, by simp [hdir], fun _ => ⟨hget, hsize⟩⟩

/-- From a directory that is listed a walk comes to what it comes to from one of its entries. -/
theorem Site.Marks.of_inside {entries : List (String × Entry)} {inner other : Stop}
    (h : site.Marks files inner.names other) (hinner : inner ∈ stop.inside entries)
    (hsize : (stop.path config).utf8ByteSize ≤ maxPathBytes) :
    site.Marks files stop.names other := by
  obtain ⟨⟨name, e⟩, -, rfl⟩ := List.mem_map.1 hinner
  refine ⟨(List.prefix_append _ _).trans h.below, .inr ?_, h.file, h.directory⟩
  rcases h.near with heq | hshort
  · rwa [heq, List.dropLast_concat]
  · exact hshort


/-- What a walk comes to from a directory that is listed it comes to from one of the entries. -/
theorem Site.Present.exists_inside (hpresent : site.Present files (stop :: stops))
    (hU : site.Underway files) (hdir : stop.isDirectory = true)
    (hsize : (stop.path config).utf8ByteSize ≤ maxPathBytes) {other : Stop}
    (h : site.Marks files stop.names other) :
    ∃ inner ∈ stop.inside (files.list (site.input ++ stop.names)),
      site.Marks files inner.names other := by
  have hne : other.names ≠ stop.names := by
    intro heq
    cases hother : other.isDirectory with
    | true =>
      have hlong := (h.directory hother).2
      rw [Stop.path, heq] at hlong
      exact absurd hlong (Nat.not_lt.2 hsize)
    | false => exact hU.ne_of_isSource (hpresent.get?_directory hdir) (h.file hother) heq
  obtain ⟨xs, hxs⟩ := h.below
  obtain ⟨name, ys, rfl⟩ := List.exists_cons_of_ne_nil (l := xs) (by
    rintro rfl
    exact hne (by rw [← hxs, List.append_nil]))
  have hinner : ∃ e, files.get? (site.input ++ stop.names ++ [name]) = some e := by
    obtain ⟨e, he⟩ := h.exists_get? hU
    rw [← hxs, List.append_cons, ← List.append_assoc, ← List.append_assoc] at he
    by_cases hys : ys = []
    · rw [hys, List.append_nil] at he
      exact ⟨_, he⟩
    · exact ⟨_, hU.wellFormed.get?_around hys he⟩
  obtain ⟨e, he⟩ := hinner
  refine ⟨⟨stop.names ++ [name], e.isDirectory⟩,
    List.mem_map.2 ⟨(name, e), hU.wellFormed.mem_list_iff.2 he, rfl⟩, ⟨⟨ys, by simp [← hxs]⟩,
      .inr (h.near.resolve_left hne), h.file, h.directory⟩⟩

end

/-! ## Trails -/

/-- Whether an event is a remark on an entry that a walk passes by. -/
def Event.isPassing : Event → Bool
  | .remark (.skippedFile _) | .remark (.skippedDirectory _) => true
  | _ => false

/-- An account without remarks on entries that the walk passes by. -/
def Account.essence (account : Account) : Account :=
  { account with events := account.events.filter (!·.isPassing) }

theorem Account.essence_append (a b : Account) : (a ++ b).essence = a.essence ++ b.essence := by
  ext1
  · exact List.filter_append _ _
  · rfl
  · rfl

theorem Account.essence_skippedFile (path : String) :
    (ofEvents [.remark (.skippedFile path)]).essence = {} := rfl

theorem Account.essence_skippedDirectory (path : String) :
    (ofEvents [.remark (.skippedDirectory path)]).essence = {} := rfl

/-- Remarks on entries that the walk passes by do not count where nothing is made of them. -/
theorem Account.filterMap_essence {α : Type} {f : Event → Option α}
    (hfile : ∀ path, f (.remark (.skippedFile path)) = none)
    (hdir : ∀ path, f (.remark (.skippedDirectory path)) = none) (account : Account) :
    account.essence.events.filterMap f = account.events.filterMap f := by
  rw [essence, List.filterMap_filter]
  congr 1
  funext event
  cases event with
  | remark r =>
    cases r with
    | skippedFile path => exact (hfile path).symm
    | skippedDirectory path => exact (hdir path).symm
    | processing | wrote | readLines => rfl
  | diagnostic | failure | converted => rfl

theorem FileStep.essence_eq {config : Config} {path : String} {files files' : FileTree}
    {account : Account} (h : FileStep config path files files' account) :
    account.essence = account := by
  have hevents : ∀ html, (conversionEvents path html).filter (!·.isPassing) =
      conversionEvents path html := by
    intro html
    refine List.filter_eq_self.2 fun event hevent => ?_
    simp only [conversionEvents, List.mem_cons, List.mem_map] at hevent
    rcases hevent with rfl | rfl | ⟨d, -, rfl⟩ <;> rfl
  ext1
  · cases h with
    | unreadable => rfl
    | untranslatable | uncreatable | unwritable | converted =>
      rw [Account.essence_append, Account.events_append, Account.essence,
        Account.events_ofEvents, hevents]
      rfl
  · rfl
  · rfl

/-- A sequence of stops, each with its account: files that are converted, and directories that
    cannot be listed because their paths are too long. -/
inductive Trail (config : Config) : List (Stop × Account) → FileTree → FileTree → Prop
  | done (files : FileTree) : Trail config [] files files
  | convert {stop : Stop} {first : Account} {trail : List (Stop × Account)}
      {files mid files' : FileTree} (hfile : stop.isDirectory = false)
      (hstep : FileStep config (stop.path config) files mid first)
      (hrest : Trail config trail mid files') :
    Trail config ((stop, first) :: trail) files files'
  | unlisted {stop : Stop} {trail : List (Stop × Account)} {files files' : FileTree}
      (hdir : stop.isDirectory = true) (hrest : Trail config trail files files') :
    Trail config ((stop, .ofFailure (.walk (stop.path config) .nameTooLong)) :: trail) files files'

theorem Trail.append {config : Config} {trail more : List (Stop × Account)}
    {files mid files' : FileTree} (h : Trail config trail files mid)
    (hmore : Trail config more mid files') : Trail config (trail ++ more) files files' := by
  induction h with
  | done files => exact hmore
  | convert hfile hstep hrest ih => exact .convert hfile hstep (ih hmore)
  | unlisted hdir hrest ih => exact .unlisted hdir (ih hmore)

/-- The accounts of a trail, one after the other. -/
def total (trail : List (Stop × Account)) : Account :=
  trail.foldr (fun x account => x.2 ++ account) {}

theorem total_cons (x : Stop × Account) (trail : List (Stop × Account)) :
    total (x :: trail) = x.2 ++ total trail := rfl

theorem total_append (trail more : List (Stop × Account)) :
    total (trail ++ more) = total trail ++ total more := by
  induction trail with
  | nil => exact (Account.nil_append _).symm
  | cons x trail ih => rw [List.cons_append, total_cons, total_cons, ih, Account.append_assoc]

/-- The trail of a walk over stops.  What the walk comes to in the files before it is on the
    trail, and what is on the trail is what the walk comes to in the files after it. -/
structure Site.Follows {config : Config} (site : Site config) (stops : List Stop)
    (files files' : FileTree) (account : Account) (trail : List (Stop × Account)) : Prop where
  isTrail : Trail config trail files files'
  total_eq : total trail = account.essence
  sorted : trail.Pairwise fun x y => x.1.names < y.1.names
  marked : ∀ x ∈ trail, ∃ stop ∈ stops, site.Marks files' stop.names x.1
  complete : ∀ stop ∈ stops, ∀ other, site.Marks files stop.names other →
    ∃ account, (other, account) ∈ trail

section
variable {config : Config} {site : Site config} {files files' : FileTree} {stop : Stop}
  {stops : List Stop} {account : Account}

/-- A stop comes before what is on the trail of the stops behind it. -/
theorem Site.Follows.lt {trail : List (Stop × Account)}
    (h : site.Follows stops files files' account trail)
    (horder : (stop :: stops).Pairwise Stop.Before) {names : List String}
    (hnames : stop.names <+: names) : ∀ x ∈ trail, names < x.1.names := by
  intro x hx
  obtain ⟨other, hother, hmarks⟩ := h.marked x hx
  exact (List.rel_of_pairwise_cons horder hother).lt hnames hmarks.below

/-- **Every walk over stops has a trail.** -/
theorem Walks.exists_trail (h : Walks config stops files files' account)
    (hU : site.Underway files) (hpresent : site.Present files stops)
    (horder : stops.Pairwise Stop.Before) :
    ∃ trail, site.Follows stops files files' account trail := by
  induction h with
  | done files => exact ⟨[], .done files, rfl, .nil, nofun, nofun⟩
  | @skip stop stops files files' account hfile hother hrest ih =>
    obtain ⟨trail, htrail⟩ := ih hU hpresent.of_cons horder.of_cons
    refine ⟨trail, htrail.isTrail, ?_, htrail.sorted, ?_, ?_⟩
    · rw [Account.essence_append, Account.essence_skippedFile, Account.nil_append, htrail.total_eq]
    · intro x hx
      obtain ⟨s, hs, hmarks⟩ := htrail.marked x hx
      exact ⟨s, List.mem_cons_of_mem _ hs, hmarks⟩
    · intro s hs other hmarks
      rcases List.mem_cons.1 hs with rfl | hs
      · exact absurd ((hpresent.marks_file_iff hU hfile other).1 hmarks).2 hother
      · exact htrail.complete s hs other hmarks
  | @convert stop stops files mid files' first rest hfile hhtml hstep hrest ih =>
    obtain ⟨content, hget⟩ := hpresent.exists_content hfile
    have hsource := hU.isSource hget hhtml
    obtain ⟨hmid, hgrows⟩ := hstep.underway hsource hU
    obtain ⟨trail, htrail⟩ := ih hmid (hpresent.of_cons.grows hgrows) horder.of_cons
    refine ⟨(stop, first) :: trail, .convert hfile hstep htrail.isTrail, ?_,
      List.pairwise_cons.2 ⟨htrail.lt horder (List.prefix_refl _), htrail.sorted⟩, ?_, ?_⟩
    · rw [total_cons, htrail.total_eq, Account.essence_append, hstep.essence_eq]
    · intro x hx
      rcases List.mem_cons.1 hx with rfl | hx
      · exact ⟨stop, List.mem_cons_self, List.prefix_refl _, .inl rfl, fun _ => hsource,
          by simp [hfile]⟩
      · obtain ⟨s, hs, hmarks⟩ := htrail.marked x hx
        exact ⟨s, List.mem_cons_of_mem _ hs, hmarks⟩
    · intro s hs other hmarks
      rcases List.mem_cons.1 hs with rfl | hs
      · obtain ⟨rfl, -⟩ := (hpresent.marks_file_iff hU hfile other).1 hmarks
        exact ⟨first, List.mem_cons_self⟩
      · obtain ⟨account, haccount⟩ := htrail.complete s hs other (hmarks.grows hgrows)
        exact ⟨account, List.mem_cons_of_mem _ haccount⟩
  | @unlisted stop stops files files' e account hdir hlist hrest ih =>
    have hget := hpresent.get?_directory hdir
    rw [hU.readDirectory_eq hget] at hlist
    split_ifs at hlist with hsize
    obtain rfl := Except.error.inj hlist
    obtain ⟨-, hgrows⟩ := hrest.underway hU hpresent.of_cons
    obtain ⟨trail, htrail⟩ := ih hU hpresent.of_cons horder.of_cons
    refine ⟨(stop, .ofFailure (.walk (stop.path config) .nameTooLong)) :: trail,
      .unlisted hdir htrail.isTrail, ?_,
      List.pairwise_cons.2 ⟨htrail.lt horder (List.prefix_refl _), htrail.sorted⟩, ?_, ?_⟩
    · rw [total_cons, htrail.total_eq, Account.essence_append, Account.essence_append,
        Account.essence_skippedDirectory, Account.nil_append]
      rfl
    · intro x hx
      rcases List.mem_cons.1 hx with rfl | hx
      · exact ⟨stop, List.mem_cons_self, List.prefix_refl _, .inl rfl, by simp [hdir],
          fun _ => ⟨hgrows.directory _ hget, hsize⟩⟩
      · obtain ⟨s, hs, hmarks⟩ := htrail.marked x hx
        exact ⟨s, List.mem_cons_of_mem _ hs, hmarks⟩
    · intro s hs other hmarks
      rcases List.mem_cons.1 hs with rfl | hs
      · obtain rfl := (hpresent.marks_unlisted_iff hU hdir hsize other).1 hmarks
        exact ⟨_, List.mem_cons_self⟩
      · obtain ⟨account, haccount⟩ := htrail.complete s hs other hmarks
        exact ⟨account, List.mem_cons_of_mem _ haccount⟩
  | @list stop stops files mid files' entries first rest hdir hlist hinside hrest ihinside ih =>
    have hget := hpresent.get?_directory hdir
    have hinner := hU.present_inside hget hlist
    rw [hU.readDirectory_eq hget] at hlist
    split_ifs at hlist with hsize
    obtain rfl := Except.ok.inj hlist
    have hsize := Nat.not_lt.1 hsize
    obtain ⟨hmid, hgrows⟩ := hinside.underway hU hinner
    obtain ⟨-, hgrows'⟩ := hrest.underway hmid (hpresent.of_cons.grows hgrows)
    obtain ⟨trail, htrail⟩ := ihinside hU hinner (pairwise_before_inside hU.wellFormed stop _)
    obtain ⟨more, hmore⟩ := ih hmid (hpresent.of_cons.grows hgrows) horder.of_cons
    -- what is inside the directory is behind it, and so before what follows the directory
    have hmarked : ∀ x ∈ trail, site.Marks mid stop.names x.1 := by
      intro x hx
      obtain ⟨inner, hinner, hmarks⟩ := htrail.marked x hx
      exact hmarks.of_inside hinner hsize
    refine ⟨trail ++ more, htrail.isTrail.append hmore.isTrail, ?_,
      List.pairwise_append.2 ⟨htrail.sorted, hmore.sorted, ?_⟩, ?_, ?_⟩
    · rw [total_append, htrail.total_eq, hmore.total_eq, Account.essence_append,
        Account.essence_append, Account.essence_skippedDirectory, Account.nil_append]
    · intro x hx
      exact hmore.lt horder (hmarked x hx).below
    · intro x hx
      rcases List.mem_append.1 hx with hx | hx
      · exact ⟨stop, List.mem_cons_self, (hmarked x hx).grows hgrows'⟩
      · obtain ⟨s, hs, hmarks⟩ := hmore.marked x hx
        exact ⟨s, List.mem_cons_of_mem _ hs, hmarks⟩
    · intro s hs other hmarks
      rcases List.mem_cons.1 hs with rfl | hs
      · obtain ⟨inner, hinner, hmarks⟩ := hpresent.exists_inside hU hdir hsize hmarks
        obtain ⟨account, haccount⟩ := htrail.complete inner hinner other hmarks
        exact ⟨account, List.mem_append_left _ haccount⟩
      · obtain ⟨account, haccount⟩ := hmore.complete s hs other (hmarks.grows hgrows)
        exact ⟨account, List.mem_append_right _ haccount⟩

/-- The trail of a run. -/
theorem exists_trail_runBatch {e : Entry} (site : Site config)
    (hcreate : files.createAll config.output = (site.start, .ok ()))
    (hget : site.start.get? site.input = some e) :
    ∃ account trail,
      Walks config [⟨[], e.isDirectory⟩] site.start (runBatch config files).files account ∧
      (runBatch config files).events = account.events ∧
      (runBatch config files).outcome = .ok ⟨account.written, account.failed⟩ ∧
      site.Follows [⟨[], e.isDirectory⟩] site.start (runBatch config files).files account
        trail := by
  obtain ⟨account, hwalk, hevents, houtcome⟩ := exists_walks_runBatch site hcreate hget
  obtain ⟨trail, htrail⟩ := hwalk.exists_trail site.underway_start (site.present_input hget)
    (List.pairwise_singleton _ _)
  exact ⟨account, trail, hwalk, hevents, houtcome, htrail⟩

/-- The directories on a trail have the same error. -/
theorem Trail.account_of_directory {trail : List (Stop × Account)}
    (h : Trail config trail files files') :
    ∀ x ∈ trail, x.1.isDirectory = true →
      x.2 = .ofFailure (.walk (x.1.path config) .nameTooLong) := by
  induction h with
  | done files => exact nofun
  | convert hfile hstep hrest ih =>
    refine List.forall_mem_cons.2 ⟨fun hdir => ?_, ih⟩
    cases hfile.symm.trans hdir
  | unlisted hdir hrest ih => exact List.forall_mem_cons.2 ⟨fun _ => rfl, ih⟩

/-- The files on a trail are converted, from files on the way to those at its end. -/
theorem Trail.exists_step {trail : List (Stop × Account)} (h : Trail config trail files files')
    (hU : site.Underway files)
    (hsources : ∀ x ∈ trail, x.1.isDirectory = false → site.IsSource x.1.names) :
    files.Grows files' ∧
    ∀ x ∈ trail, x.1.isDirectory = false → ∃ before after,
      FileStep config (x.1.path config) before after x.2 ∧ site.Underway before ∧
        after.Grows files' := by
  induction h with
  | done files => exact ⟨.refl _, nofun⟩
  | convert hfile hstep hrest ih =>
    obtain ⟨hsource, hsources⟩ := List.forall_mem_cons.1 hsources
    obtain ⟨hmid, hfirst⟩ := hstep.underway (hsource hfile) hU
    obtain ⟨hgrows, hsteps⟩ := ih hmid hsources
    exact ⟨hfirst.trans hgrows, List.forall_mem_cons.2 ⟨fun _ => ⟨_, _, hstep, hU, hgrows⟩, hsteps⟩⟩
  | unlisted hdir hrest ih =>
    obtain ⟨-, hsources⟩ := List.forall_mem_cons.1 hsources
    obtain ⟨hgrows, hsteps⟩ := ih hU hsources
    refine ⟨hgrows, List.forall_mem_cons.2 ⟨fun hfile => ?_, hsteps⟩⟩
    cases hdir.symm.trans hfile

/-- The files on a trail are sources. -/
theorem Site.Follows.isSource {trail : List (Stop × Account)}
    (h : site.Follows stops files files' account trail) :
    ∀ x ∈ trail, x.1.isDirectory = false → site.IsSource x.1.names := by
  intro x hx hfile
  obtain ⟨stop, -, hmarks⟩ := h.marked x hx
  exact hmarks.file hfile

end

end WidgetMarkup
