/-
  Conversions that are done a second time.

  * A conversion finds what it found before: a source is as it was, what stood in the way of
    its result still does, and nothing that was added since does.  So it gives the same account
    and changes nothing (`FileStep.again`).
  * After a walk all files on its trail are settled in this way (`Site.Follows.settled`).  A
    second walk converts the same files and changes nothing (`Site.Follows.unchanged`).
  * It may come to more directories than the first one: `Site.Follows.exists_late` says which.
-/
import WidgetMarkup.Proofs.FileEvents
import WidgetMarkup.Proofs.Placement

namespace WidgetMarkup

open FileTree

/-! ## One conversion -/

section
variable {config : Config} {site : Site config} {files files' last after : FileTree}
  {names : List String} {account account' : Account}

theorem Site.creation?_of_some (hU : site.Underway files) (hlast : site.Underway last)
    (hgrows : files.Grows last) {e : FileError} (h : site.creation? files names = some e) :
    site.creation? last names = some e := by
  rw [creation?, Option.or_eq_some_iff] at h ⊢
  rcases h with hpath | ⟨hpath, hobstacle⟩
  · exact .inl hpath
  · exact .inr ⟨hpath, hU.wellFormed.obstacle?_eq hlast.wellFormed
      (fun ps content _ => hgrows.file _ content) hobstacle⟩

theorem Site.creation?_of_none (h : site.creation? files names = none)
    (hleading : ∀ loc, site.Leads names loc → last.get? loc = some .directory) :
    site.creation? last names = none := by
  rw [creation?, Option.or_eq_none_iff] at h ⊢
  exact ⟨h.1, obstacle?_eq_none fun ps hps => hleading _ ⟨ps, hps, rfl⟩⟩

/-- A directory in the place of the result stays there, and so does a result. -/
theorem Site.writing?_eq (hgrows : files.Grows last)
    (htarget : site.writing? files names = none →
      ∃ content, last.get? (site.target names) = some (.file content)) :
    site.writing? last names = site.writing? files names := by
  cases hw : site.writing? files names with
  | none =>
    obtain ⟨content, hfile⟩ := htarget hw
    rw [writing?, Option.or_eq_none_iff] at hw ⊢
    refine ⟨hw.1, ?_⟩
    have hup : (site.target names).getLast? ≠ some ".." := by
      intro hup
      simp [hup] at hw
    simp [hup, hfile, Entry.isDirectory]
  | some e =>
    rw [writing?, Option.or_eq_some_iff] at hw ⊢
    rcases hw with hpath | ⟨hpath, hdir⟩
    · exact .inl hpath
    refine .inr ⟨hpath, ?_⟩
    split_ifs at hdir with hthere
    rw [if_pos, hdir]
    refine hthere.imp_right fun hany => ?_
    obtain ⟨e, he, hisdir⟩ := (Option.any_eq_true _ _).1 hany
    obtain ⟨e', he', hkind⟩ := hgrows.get? he
    exact (Option.any_eq_true _ _).2 ⟨e', he', hkind.trans hisdir⟩

/-- **A conversion that is repeated gives the same account and changes nothing**, if what it
    wrote is in place. -/
theorem FileStep.again
    (h : FileStep config (Path.joinAll config.input names) files files' account)
    (hs : site.IsSource names) (hU : site.Underway files) (hgrows : files'.Grows last)
    (hlast : site.Underway last) (hopen : config.output = "" ∨ pathError? config.output = none)
    (hholds : Path.joinAll config.input names ∈ succeeded account.events → site.Holds last names)
    (h' : FileStep config (Path.joinAll config.input names) last after account') :
    after = last ∧ account' = account := by
  have hsame : last.readText (Path.joinAll config.input names) =
      files.readText (Path.joinAll config.input names) :=
    (hlast.readText_source hs).trans (hU.readText_source hs).symm
  obtain ⟨-, hstep⟩ := h.underway hs hU
  cases hread : files.readText (Path.joinAll config.input names) with
  | error e =>
    obtain ⟨rfl, rfl⟩ := h.of_unreadable hread
    exact h'.of_unreadable (hsame.trans hread)
  | ok html =>
    cases hconvert : (convert html).1 with
    | error e =>
      obtain ⟨rfl, rfl⟩ := h.of_untranslatable hread hconvert
      exact h'.of_untranslatable (hsame.trans hread) hconvert
    | ok text =>
      have hread' := hsame.trans hread
      cases hcreation : site.creation? files names with
      | some e =>
        obtain ⟨rfl, rfl⟩ := h.of_creation hs hU hopen hread hconvert hcreation
        exact h'.of_creation hs hlast hopen hread' hconvert
          (Site.creation?_of_some hU hlast hgrows hcreation)
      | none =>
        obtain ⟨heffect, haccount⟩ := h.of_clear hs hU hopen hread hconvert hcreation
        have hleading : ∀ loc, site.Leads names loc → last.get? loc = some .directory :=
          fun loc hloc => hgrows.directory loc (heffect.leading loc hloc)
        have hwriting : site.writing? last names = site.writing? files names :=
          Site.writing?_eq (hstep.trans hgrows) fun hw => hgrows.file _ _ (heffect.target hw)
        obtain ⟨heffect', haccount'⟩ := h'.of_clear hs hlast hopen hread' hconvert
          (Site.creation?_of_none hcreation hleading)
        refine ⟨?_, by rw [haccount', haccount, hwriting]⟩
        obtain ⟨hafter, hgrows'⟩ := h'.underway hs hlast
        refine hafter.wellFormed.ext hlast.wellFormed hgrows'.current fun loc => ?_
        by_cases hloc : site.Leads names loc
        · rw [heffect'.leading loc hloc, hleading loc hloc]
        by_cases htarget : site.writing? last names = none ∧ loc = site.target names
        · obtain ⟨hw, rfl⟩ := htarget
          rw [heffect'.target hw]
          rw [hwriting] at hw
          obtain ⟨html', text', hread₀, hconvert', hget⟩ := (hholds (by
            rw [haccount, hw, Option.map_none, placement, Account.events_append, succeeded_append]
            exact List.mem_append_right _ List.mem_cons_self)).text
          rw [← hU.readText_source hs, hread, Except.ok.injEq] at hread₀
          rw [← hread₀, hconvert, Except.ok.injEq] at hconvert'
          rw [hget, hconvert']
        · exact heffect'.other loc hloc fun hw heq => htarget ⟨hw, heq⟩

/-! ## The second walk -/

/-- A conversion gives a certain account and changes nothing. -/
def Settled (config : Config) (files : FileTree) (path : String) (account : Account) : Prop :=
  ∀ after account', FileStep config path files after account' → after = files ∧ account' = account

/-- A walk over files that are settled changes nothing. -/
theorem Trail.unchanged {trail : List (Stop × Account)} (h : Trail config trail files files')
    (hsettled : ∀ x ∈ trail, x.1.isDirectory = false →
      ∃ account, Settled config files (x.1.path config) account) :
    files' = files ∧ ∀ x ∈ trail, x.1.isDirectory = false →
      FileStep config (x.1.path config) files files x.2 := by
  induction h with
  | done files => exact ⟨rfl, nofun⟩
  | convert hfile hstep hrest ih =>
    obtain ⟨hfirst, hsettled⟩ := List.forall_mem_cons.1 hsettled
    obtain ⟨account, haccount⟩ := hfirst hfile
    obtain ⟨rfl, -⟩ := haccount _ _ hstep
    obtain ⟨hsame, hsteps⟩ := ih hsettled
    exact ⟨hsame, List.forall_mem_cons.2 ⟨fun _ => hstep, hsteps⟩⟩
  | unlisted hdir hrest ih =>
    obtain ⟨hsame, hsteps⟩ := ih (List.forall_mem_cons.1 hsettled).2
    refine ⟨hsame, List.forall_mem_cons.2 ⟨fun hfile => ?_, hsteps⟩⟩
    cases hdir.symm.trans hfile

/-- After a walk, the files on its trail are settled. -/
theorem Site.Follows.settled {stops : List Stop} {trail : List (Stop × Account)}
    (h : site.Follows stops site.start last account trail)
    (hwalk : Walks config stops site.start last account) (hpresent : site.Present site.start stops)
    (hlast : site.Underway last) (hopen : config.output = "" ∨ pathError? config.output = none) :
    ∀ x ∈ trail, x.1.isDirectory = false → Settled config last (x.1.path config) x.2 := by
  have hholds := hwalk.exists_holds hpresent h.processed_eq h.sorted_sources fun rel hrel => by
    obtain ⟨account, hmem⟩ := mem_sourcesOf.1 hrel
    exact h.isSource _ hmem rfl
  intro x hx hfile after account' hstep'
  have hs := h.isSource x hx hfile
  obtain ⟨-, hsteps⟩ := h.isTrail.exists_step site.underway_start h.isSource
  obtain ⟨before, mid, hstep, hU, hgrows⟩ := hsteps x hx hfile
  refine hstep.again hs hU hgrows hlast hopen (fun hsucceeded => ?_) hstep'
  obtain ⟨more, heq, hs', hmore⟩ :=
    hholds _ (h.mem_succeeded_iff.2 ⟨x, hx, hfile, rfl, hsucceeded⟩)
  rwa [hs.joinAll_injective hs' heq]

/-- Where the second run takes place. -/
def Site.next (site : Site config) (hlast : site.Underway last) : Site config where
  start := last
  input := site.input
  output := site.output
  wellFormed := hlast.wellFormed
  pathError?_input := site.pathError?_input
  locate_input := hlast.grows.locate site.locate_input
  locate_output := hlast.grows.locate site.locate_output
  get?_output := hlast.grows.directory _ site.get?_output

theorem Site.start_next (hlast : site.Underway last) : (site.next hlast).start = last := rfl

theorem Site.isSource_next (hlast : site.Underway last) :
    (site.next hlast).IsSource names ↔ site.IsSource names := by
  constructor
  · rintro ⟨hname, content, hfile⟩
    exact ⟨hname, content, hlast.source _ _ hname hfile⟩
  · rintro ⟨hname, content, hfile⟩
    exact ⟨hname, content, hlast.get?_source hname hfile⟩

theorem Site.marks_next (hlast : site.Underway last) {stop : Stop} :
    (site.next hlast).Marks files names stop ↔ site.Marks files names stop := by
  constructor
  · intro h
    exact ⟨h.below, h.near, fun hfile => (isSource_next hlast).1 (h.file hfile), h.directory⟩
  · intro h
    exact ⟨h.below, h.near, fun hfile => (isSource_next hlast).2 (h.file hfile), h.directory⟩

/-- No two stops of a trail have the same names. -/
theorem eq_of_names_eq {trail : List (Stop × Account)}
    (hsorted : trail.Pairwise fun x y => x.1.names < y.1.names) {x y : Stop × Account}
    (hx : x ∈ trail) (hy : y ∈ trail) (heq : x.1.names = y.1.names) : x = y := by
  have hnodup : (trail.map fun x => x.1.names).Nodup :=
    List.pairwise_map.2 (hsorted.imp fun hlt => hlt.ne)
  exact List.inj_on_of_nodup_map hnodup hx hy heq

section
variable {stops : List Stop} {trail trail' : List (Stop × Account)} {hlast : site.Underway last}
  (h : site.Follows stops site.start last account trail)
  (h' : (site.next hlast).Follows stops last after account' trail')
  (hsettled : ∀ x ∈ trail, x.1.isDirectory = false →
    Settled config last (x.1.path config) x.2)
include h h' hsettled

/-- The second walk converts the same files, and changes nothing. -/
theorem Site.Follows.unchanged :
    after = last ∧ ∀ x ∈ trail', x.1.isDirectory = false → x ∈ trail := by
  have hfound : ∀ x ∈ trail', x.1.isDirectory = false → ∃ account, (x.1, account) ∈ trail := by
    intro x hx hfile
    obtain ⟨stop, hstop, hmarks⟩ := h'.marked x hx
    have hmarks := (marks_next hlast).1 hmarks
    refine h.complete stop hstop x.1 ⟨hmarks.below, hmarks.near, hmarks.file, fun hdir => ?_⟩
    cases hfile.symm.trans hdir
  obtain ⟨hsame, hsteps⟩ := h'.isTrail.unchanged fun x hx hfile => by
    obtain ⟨account, haccount⟩ := hfound x hx hfile
    exact ⟨account, hsettled _ haccount hfile⟩
  refine ⟨hsame, fun x hx hfile => ?_⟩
  obtain ⟨account, haccount⟩ := hfound x hx hfile
  obtain ⟨-, heq⟩ := hsettled _ haccount hfile _ _ (hsteps x hx hfile)
  obtain ⟨stop, first⟩ := x
  rw [show first = account from heq]
  exact haccount

/-- What is on the first trail is on the second one. -/
theorem Site.Follows.subset : ∀ x ∈ trail, x ∈ trail' := by
  intro x hx
  obtain ⟨-, hfiles⟩ := h.unchanged h' hsettled
  obtain ⟨stop, hstop, hmarks⟩ := h.marked x hx
  obtain ⟨account, haccount⟩ := h'.complete stop hstop x.1 ((marks_next hlast).2 hmarks)
  suffices hsame : (x.1, account) = x by
    rw [hsame] at haccount
    exact haccount
  cases hdir : x.1.isDirectory with
  | true =>
    refine Prod.ext rfl ?_
    rw [h.isTrail.account_of_directory x hx hdir]
    exact h'.isTrail.account_of_directory _ haccount hdir
  | false => exact eq_of_names_eq h.sorted (hfiles _ haccount hdir) hx rfl

/-- The first trail is the second one without some directories that were not there when the
    first walk started. -/
theorem Site.Follows.exists_late :
    ∃ p : Stop × Account → Bool, trail = trail'.filter p ∧
      ∀ x ∈ trail', p x = false → x.1.isDirectory = true ∧
        site.start.get? (site.input ++ x.1.names) = none ∧
        last.get? (site.input ++ x.1.names) = some .directory ∧
        maxPathBytes < (x.1.path config).utf8ByteSize := by
  obtain ⟨-, hfiles⟩ := h.unchanged h' hsettled
  have hsubset := h.subset h' hsettled
  refine ⟨fun x => decide (x.1.names ∈ trail.map (·.1.names)), ?_, ?_⟩
  · refine eq_of_mem_iff h.sorted (h'.sorted.filter _) fun x => ?_
    rw [List.mem_filter, decide_eq_true_iff, List.mem_map]
    constructor
    · intro hx
      exact ⟨hsubset x hx, x, hx, rfl⟩
    · rintro ⟨hx, y, hy, heq⟩
      rwa [← eq_of_names_eq h'.sorted (hsubset y hy) hx heq]
  · intro x hx hnew
    have hnot : ∀ account, (x.1, account) ∉ trail := by
      intro account hmem
      exact of_decide_eq_false hnew (List.mem_map.2 ⟨_, hmem, rfl⟩)
    obtain ⟨stop, hstop, hmarks⟩ := h'.marked x hx
    have hmarks := (marks_next hlast).1 hmarks
    cases hdir : x.1.isDirectory with
    | false => exact absurd (hfiles x hx hdir) (hnot x.2)
    | true =>
      obtain ⟨hafter, -⟩ := h.unchanged h' hsettled
      obtain ⟨hget, hsize⟩ := hmarks.directory hdir
      rw [hafter] at hget
      refine ⟨rfl, ?_, hget, hsize⟩
      -- had it been there, it would have been found
      by_contra hsome
      obtain ⟨e, he⟩ := Option.ne_none_iff_exists'.1 hsome
      obtain ⟨e', he', hkind⟩ := hlast.grows.get? he
      obtain rfl := Option.some.inj (he'.symm.trans hget)
      have hstart : site.start.get? (site.input ++ x.1.names) = some .directory := by
        cases e with
        | directory => exact he
        | file content => cases hkind
      obtain ⟨account, haccount⟩ := h.complete stop hstop x.1
        ⟨hmarks.below, hmarks.near, hmarks.file, fun _ => ⟨hstart, hsize⟩⟩
      exact hnot account haccount

end

end

end WidgetMarkup
