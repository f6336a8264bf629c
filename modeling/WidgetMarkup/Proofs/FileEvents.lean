/-
  What happens with each of the files of a run.

  * `eventsOf` takes from the events of a run those that belong to one file.  Those of a file on a
    trail are the ones that its own account has (`Site.Follows.eventsOf_eq`).
  * A file has a result if its own account says so (`Site.Follows.mem_succeeded_iff`).
-/
import WidgetMarkup.Proofs.Agreement

namespace WidgetMarkup

/-! ## The events of a file -/

/-- Whether an event is part of the conversion of a file. -/
def Event.isOwn (event : Event) : Bool :=
  !event.isPassing && !event.isWalkError

/-- What happens with a file: all from the start of its conversion to that of the next one, without
    what is said about entries that the walk passes by or cannot list. -/
def eventsOf (path : String) (events : List Event) : List Event :=
  (((events.filter Event.isOwn).dropWhile (·.processed? != some path)).drop 1).takeWhile
    (·.processed?.isNone)

theorem eventsOf_essence (path : String) (account : Account) :
    eventsOf path account.essence.events = eventsOf path account.events := by
  have hfilter : account.essence.events.filter Event.isOwn = account.events.filter Event.isOwn := by
    rw [Account.essence, List.filter_filter]
    refine List.filter_congr fun event _ => ?_
    rw [Event.isOwn]
    cases event.isPassing <;> simp
  rw [eventsOf, eventsOf, hfilter]

section
variable {path other : String} {own rest : List Event}
  (hown : ∀ event ∈ own, event.isOwn = true ∧ event.processed? = none)
include hown

theorem filter_isOwn (other : String) :
    ((.remark (.processing other) :: own) ++ rest).filter Event.isOwn =
      .remark (.processing other) :: own ++ rest.filter Event.isOwn := by
  rw [List.filter_append, List.filter_cons_of_pos rfl,
    List.filter_eq_self.2 fun event hevent => (hown event hevent).1]

/-- What happens with a file ends where the next conversion starts. -/
theorem eventsOf_self (hrest : (rest.filter Event.isOwn).takeWhile (·.processed?.isNone) = []) :
    eventsOf path ((.remark (.processing path) :: own) ++ rest) = own := by
  rw [eventsOf, filter_isOwn hown, List.cons_append,
    List.dropWhile_cons_of_neg (by simp [Event.processed?]), List.drop_succ_cons, List.drop_zero,
    List.takeWhile_append_of_pos, hrest, List.append_nil]
  intro event hevent
  rw [(hown event hevent).2]
  rfl

/-- What happens with other files does not count. -/
theorem eventsOf_of_ne (hne : other ≠ path) :
    eventsOf path ((.remark (.processing other) :: own) ++ rest) = eventsOf path rest := by
  have hskip : ∀ event ∈ (.remark (.processing other) :: own : List Event),
      (event.processed? != some path) = true := by
    refine List.forall_mem_cons.2 ⟨?_, fun event hevent => ?_⟩
    · simpa [Event.processed?] using hne
    · rw [(hown event hevent).2]
      rfl
  rw [eventsOf, filter_isOwn hown, List.dropWhile_append_of_pos hskip, eventsOf]

end

section
variable {config : Config} {site : Site config} {files files' : FileTree} {stops : List Stop}
  {account : Account} {trail : List (Stop × Account)}

/-- A conversion starts with its file, and then all that happens is its own. -/
theorem FileStep.exists_own {path : String} (h : FileStep config path files files' account) :
    ∃ own, account.events = .remark (.processing path) :: own ∧
      ∀ event ∈ own, event.isOwn = true ∧ event.processed? = none := by
  have hlater : ∀ html last, (∀ event ∈ last, event.isOwn = true ∧ event.processed? = none) →
      ∃ own, conversionEvents path html ++ last = .remark (.processing path) :: own ∧
        ∀ event ∈ own, event.isOwn = true ∧ event.processed? = none := by
    intro html last hlast
    refine ⟨.remark (.readLines (Html.lineEnds html)) :: (convert html).2.map (.diagnostic path) ++
      last, rfl, fun event hevent => ?_⟩
    rcases List.mem_append.1 hevent with hevent | hevent
    · rcases List.mem_cons.1 hevent with rfl | hevent
      · exact ⟨rfl, rfl⟩
      · obtain ⟨d, -, rfl⟩ := List.mem_map.1 hevent
        exact ⟨rfl, rfl⟩
    · exact hlast event hevent
  cases h with
  | unreadable => exact ⟨_, rfl, List.forall_mem_singleton.2 ⟨rfl, rfl⟩⟩
  | untranslatable | uncreatable | unwritable =>
    exact hlater _ _ (List.forall_mem_singleton.2 ⟨rfl, rfl⟩)
  | converted =>
    exact hlater _ _ (List.forall_mem_cons.2 ⟨⟨rfl, rfl⟩,
      List.forall_mem_singleton.2 ⟨rfl, rfl⟩⟩)

/-- What comes before the first conversion of a trail belongs to no file. -/
theorem Trail.takeWhile_own (h : Trail config trail files files') :
    ((total trail).events.filter Event.isOwn).takeWhile (·.processed?.isNone) = [] := by
  induction h with
  | done files => rfl
  | convert hfile hstep hrest ih =>
    obtain ⟨own, hevents, hown⟩ := hstep.exists_own
    rw [total_cons, Account.events_append, hevents, filter_isOwn hown]
    rfl
  | unlisted hdir hrest ih => exact ih

/-- What happens with a file of a trail is what its account says. -/
theorem Trail.events_eq (h : Trail config trail files files')
    (hpaths : trail.Pairwise fun x y => x.1.isDirectory = false → y.1.isDirectory = false →
      x.1.path config ≠ y.1.path config) :
    ∀ x ∈ trail, x.1.isDirectory = false →
      x.2.events = .remark (.processing (x.1.path config)) ::
        eventsOf (x.1.path config) (total trail).events := by
  induction h with
  | done files => exact nofun
  | @convert stop first trail files mid files' hfile hstep hrest ih =>
    obtain ⟨hne, hpaths⟩ := List.pairwise_cons.1 hpaths
    obtain ⟨own, hevents, hown⟩ := hstep.exists_own
    refine List.forall_mem_cons.2 ⟨fun _ => ?_, fun x hx hxfile => ?_⟩
    · rw [total_cons, Account.events_append, hevents, eventsOf_self hown hrest.takeWhile_own]
    · rw [total_cons, Account.events_append, hevents, eventsOf_of_ne hown (hne x hx hfile hxfile)]
      exact ih hpaths x hx hxfile
  | unlisted hdir hrest ih =>
    refine List.forall_mem_cons.2 ⟨fun hfile => ?_, ih (List.pairwise_cons.1 hpaths).2⟩
    cases hdir.symm.trans hfile

/-- The files on a trail have different paths. -/
theorem Site.Follows.pairwise_paths (h : site.Follows stops files files' account trail) :
    trail.Pairwise fun x y => x.1.isDirectory = false → y.1.isDirectory = false →
      x.1.path config ≠ y.1.path config := by
  refine h.sorted.imp_of_mem fun {x y} hx hy hlt hxfile hyfile heq => ?_
  have hnames := (h.isSource x hx hxfile).joinAll_injective (h.isSource y hy hyfile) heq
  exact absurd hlt (hnames ▸ lt_irrefl _)

/-- What happens with a file is what its account on the trail says. -/
theorem Site.Follows.eventsOf_eq (h : site.Follows stops files files' account trail)
    {x : Stop × Account} (hx : x ∈ trail) (hfile : x.1.isDirectory = false) :
    x.2.events = .remark (.processing (x.1.path config)) ::
      eventsOf (x.1.path config) account.events := by
  rw [← eventsOf_essence, ← h.total_eq]
  exact h.isTrail.events_eq h.pairwise_paths x hx hfile

/-! ## Files with a result -/

theorem succeeded_essence (account : Account) :
    succeeded account.essence.events = succeeded account.events :=
  account.filterMap_essence (fun _ => rfl) fun _ => rfl

theorem mem_succeeded_total {source : String} :
    source ∈ succeeded (total trail).events ↔ ∃ x ∈ trail, source ∈ succeeded x.2.events := by
  induction trail with
  | nil => exact ⟨nofun, nofun⟩
  | cons x trail ih =>
    rw [total_cons, Account.events_append, succeeded_append, List.mem_append, ih,
      List.exists_mem_cons_iff]

/-- The results of a trail are those of its files. -/
theorem Trail.eq_path_of_succeeded (h : Trail config trail files files') :
    ∀ x ∈ trail, ∀ source ∈ succeeded x.2.events,
      x.1.isDirectory = false ∧ source = x.1.path config := by
  induction h with
  | done files => exact nofun
  | convert hfile hstep hrest ih =>
    refine List.forall_mem_cons.2 ⟨fun source hsource => ⟨hfile, ?_⟩, ih⟩
    have hmem := hstep.balanced.sources.subset hsource
    rw [hstep.processed_eq] at hmem
    exact List.mem_singleton.1 hmem
  | unlisted hdir hrest ih => exact List.forall_mem_cons.2 ⟨nofun, ih⟩

/-- The files with a result are those whose accounts on the trail say so. -/
theorem Site.Follows.mem_succeeded_iff (h : site.Follows stops files files' account trail)
    {source : String} :
    source ∈ succeeded account.events ↔ ∃ x ∈ trail, x.1.isDirectory = false ∧
      source = x.1.path config ∧ source ∈ succeeded x.2.events := by
  rw [← succeeded_essence, ← h.total_eq, mem_succeeded_total]
  constructor
  · rintro ⟨x, hx, hsource⟩
    obtain ⟨hfile, hpath⟩ := h.isTrail.eq_path_of_succeeded x hx source hsource
    exact ⟨x, hx, hfile, hpath, hsource⟩
  · rintro ⟨x, hx, -, -, hsource⟩
    exact ⟨x, hx, hsource⟩

end

end WidgetMarkup
