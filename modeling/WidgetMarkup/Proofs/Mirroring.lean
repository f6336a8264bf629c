/-
  Results stand where their sources stand.

  A file at or below the input with the extension `html` (`Walked`) has directories and a name
  behind the input (`Behind`).  Its result has the same directories behind the output, and the
  name with the extension `yuck` (`Mirrors`), so that it is strictly below the output.
  Different files have different results.

  One name is an exception.  The stem of `..html` is `.`, and the name that it gets instead is
  `..`: the result of such a file would have to be a directory above the one where it belongs
  (`outputPath_dotted`).
-/
import WidgetMarkup.Proofs.Coverage
import WidgetMarkup.Proofs.Placement

namespace WidgetMarkup

open FileTree

/-! ## Sources and their results -/

/-- A file with the extension `html` at or below the input, with its names behind the input. -/
structure Walked (files : FileTree) (input : String) (names : List String) : Prop where
  exists_file : ∃ loc e content, files.find input = .ok (loc, e) ∧
    files.get? (loc ++ names) = some (.file content)
  html : Path.extension? (Path.joinAll input names) = some "html"

/-- The directories and the name that a path has behind the input.  The input itself has the
    name at its end and no directories. -/
inductive Behind (input path : String) : List String → String → Prop where
  | below {dirs : List String} {name : String}
    (h : Path.relativeTo? input path = some ((dirs ++ [name]).map .name)) :
    Behind input path dirs name
  | itself {name : String} (h : Path.relativeTo? input path = some [])
    (hname : Path.fileName? path = some name) : Behind input path [] name

/-- A path has one way to stand behind the input. -/
theorem Behind.unique {input path name name' : String} {dirs dirs' : List String}
    (h : Behind input path dirs name) (h' : Behind input path dirs' name') :
    dirs = dirs' ∧ name = name' := by
  have hinjective : Function.Injective Path.Component.name := fun _ _ => Path.Component.name.inj
  cases h with
  | below h =>
    cases h' with
    | below h' =>
      have hnames := hinjective.list_map (Option.some.inj (h.symm.trans h'))
      obtain ⟨hdirs, hname⟩ := List.append_inj' hnames rfl
      exact ⟨hdirs, List.singleton_inj.1 hname⟩
    | itself h' => simp [h] at h'
  | itself h hname =>
    cases h' with
    | below h' => simp [h] at h'
    | itself h' hname' => exact ⟨rfl, Option.some.inj (hname.symm.trans hname')⟩

/-- The result of a path has these names behind the output, and is below it by these names
    wherever the output is. -/
structure Mirrors (config : Config) (path : String) (names : List String) : Prop where
  spelled : outputPath config path = Path.joinAll config.output names
  components : Path.components (outputPath config path) =
    Path.components config.output ++ names.map .name
  located : ∀ {files : FileTree} {out loc : Location}, files.WellFormed →
    files.locate config.output = .ok out → files.locate (outputPath config path) = .ok loc →
    loc = out ++ names

theorem mirrors_of_isName {config : Config} {path : String} {names : List String}
    (hnames : ∀ name ∈ names, IsName name)
    (h : outputPath config path = Path.joinAll config.output names) :
    Mirrors config path names where
  spelled := h
  components := by rw [h, Path.components_joinAll hnames]
  located := by
    intro files out loc hf hout hloc
    rw [h] at hloc
    exact eq_of_locate_joinAll hf hout hnames hloc

/-! ## Walked files are sources -/

section
variable {files : FileTree} {input : String} {names more : List String}

theorem FileTree.locate_root (files : FileTree) : files.locate "/" = .ok [] := by
  rw [locate]
  rfl

/-- What results are named does not depend on where the output is: here it is the root. -/
theorem Walked.exists_site (hf : files.WellFormed) (h : Walked files input names) :
    ∃ site : Site ⟨input, "/"⟩, site.start = files := by
  obtain ⟨loc, e, -, hfind, -⟩ := h.exists_file
  obtain ⟨hpath, hlocate, -⟩ := find_eq_ok_iff.1 hfind
  exact ⟨⟨files, loc, [], hf, hpath, hlocate, files.locate_root, files.get?_nil⟩, rfl⟩

theorem Walked.isSource {output : String} {site : Site ⟨input, output⟩}
    (h : Walked site.start input names) : site.IsSource names := by
  obtain ⟨loc, e, content, hfind, hfile⟩ := h.exists_file
  obtain ⟨-, hlocate, -⟩ := find_eq_ok_iff.1 hfind
  obtain rfl := Except.ok.inj (site.locate_input.symm.trans hlocate)
  exact site.underway_start.isSource hfile h.html

/-- The names of a walked file behind the input are its directories and its name. -/
theorem Site.IsSource.behind {config : Config} {site : Site config} {name : String}
    (h : site.IsSource names) (hlast : (site.input ++ names).getLast? = some name) :
    Behind config.input (Path.joinAll config.input names) names.dropLast name := by
  obtain ⟨-, content, hfile⟩ := h
  have hall := site.wellFormed.isName hfile
  have hrel := Path.relativeTo?_joinAll (fun n hn => hall n (List.mem_append_right _ hn))
    config.input
  by_cases hnil : names = []
  · subst hnil
    rw [List.append_nil] at hfile hlast
    obtain ⟨name', hlast', hname⟩ := site.wellFormed.exists_fileName? site.locate_input hfile
    obtain rfl := Option.some.inj (hlast.symm.trans hlast')
    exact .itself hrel hname
  · rw [List.getLast?_append_of_ne_nil _ hnil] at hlast
    exact .below (by rw [List.dropLast_append_getLast? name hlast, hrel])

theorem Path.text_of_component? {part : String} {c : Component} (h : component? part = some c) :
    c.text = part := by
  rw [component?] at h
  split_ifs at h with hblank hup
  · obtain rfl := Option.some.inj h
    exact (beq_iff_eq.1 hup).symm
  · obtain rfl := Option.some.inj h
    rfl

/-- All names of a result are components of its path, also `..`. -/
theorem Site.IsSource.exists_components {config : Config} {site : Site config}
    (h : site.IsSource names) (output : String) :
    ∃ cs, Path.components (outputPath ⟨config.input, output⟩ (Path.joinAll config.input names)) =
        Path.components output ++ cs ∧
      cs.map Path.Component.text = targetNames config (Path.joinAll config.input names) := by
  obtain ⟨name, -, hhtml, hname, hdirs, htarget⟩ := h.exists_name
  obtain ⟨c, hc⟩ := hhtml.exists_component?
  refine ⟨names.dropLast.map .name ++ [c], ?_, ?_⟩
  · rw [outputPath, show targetNames ⟨config.input, output⟩ = targetNames config from rfl, htarget,
      Path.joinAll_concat,
      Path.components_join_part _ (hhtml.notMem_slash hname.no_slash) hc,
      Path.components_joinAll hdirs, List.append_assoc]
  · rw [htarget, List.map_append, List.map_map, List.map_singleton, Path.text_of_component? hc]
    exact congrArg (· ++ _) (List.map_id _)

end

/-! ## Mirroring -/

section
variable {config : Config} {files : FileTree} {names : List String}

/-- **Results stand where their sources stand.**  A walked file has directories and a name with
    the extension `html` behind the input, and its result has the same directories and the name
    with the extension `yuck` behind the output; only for `..html` that name is `..`.  No other
    walked file has the same result. -/
theorem outputPath_mirrors (hf : files.WellFormed) (h : Walked files config.input names) :
    ∃ dirs stem,
      Behind config.input (Path.joinAll config.input names) dirs (stem ++ ".html") ∧
      (stem ≠ "." →
        Mirrors config (Path.joinAll config.input names) (dirs ++ [stem ++ ".yuck"])) ∧
      (stem = "." → outputPath config (Path.joinAll config.input names) =
        Path.joinAll config.output (dirs ++ [".."])) ∧
      ∀ more, Walked files config.input more →
        Path.components (outputPath config (Path.joinAll config.input names)) =
          Path.components (outputPath config (Path.joinAll config.input more)) →
        names = more := by
  obtain ⟨site, rfl⟩ := h.exists_site hf
  obtain ⟨name, hlast, hhtml, hname, hdirs, htarget⟩ := h.isSource.exists_name
  obtain ⟨stem, rfl, -, hstem⟩ := hhtml.exists_stem
  have houtput : outputPath config (Path.joinAll config.input names) =
      Path.joinAll config.output
        (names.dropLast ++ [Path.setExtension "yuck" (stem ++ ".html")]) :=
    congrArg (Path.joinAll config.output) htarget
  refine ⟨names.dropLast, stem, h.isSource.behind hlast, fun hdot => ?_, fun hdot => ?_, ?_⟩
  · rw [if_neg hdot] at hstem
    have hyuck := hhtml.isName_setExtension hname
    rw [hstem] at hyuck houtput
    refine mirrors_of_isName (fun n hn => ?_) houtput
    rcases List.mem_append.1 hn with hn | hn
    · exact hdirs n hn
    · rw [List.mem_singleton.1 hn]
      exact hyuck.resolve_left (Path.ne_of_yuck stem (by decide))
  · rw [houtput, hstem, if_pos hdot]
  · intro more hmore heq
    obtain ⟨cs, hcs, htexts⟩ := h.isSource.exists_components config.output
    obtain ⟨cs', hcs', htexts'⟩ := hmore.isSource.exists_components config.output
    obtain rfl := List.append_cancel_left (hcs.symm.trans (heq.trans hcs'))
    -- equal components have equal texts, and these are the names of the results
    refine h.isSource.target_injective hmore.isSource ?_
    exact congrArg (site.output ++ ·) (htexts.symm.trans htexts')

end

theorem outputPath_mirrors_shelf :
    shelf.WellFormed ∧ Walked shelf "in" ["d", "a.html"] ∧
    Behind "in" "in/d/a.html" ["d"] "a.html" ∧
    Mirrors ⟨"in", "out/"⟩ "in/d/a.html" ["d", "a.yuck"] ∧
    ∀ more, Walked shelf "in" more →
      Path.components (outputPath ⟨"in", "out/"⟩ "in/d/a.html") =
        Path.components (outputPath ⟨"in", "out/"⟩ (Path.joinAll "in" more)) →
      ["d", "a.html"] = more := by
  have hwalked : Walked shelf (Config.mk "in" "out/").input ["d", "a.html"] :=
    ⟨⟨["in"], .directory, "<widget name=w>1</widget>".toUTF8, rfl, rfl⟩, by decide⟩
  have hbehind : Behind "in" "in/d/a.html" ["d"] "a.html" := .below (by decide)
  obtain ⟨dirs, stem, hdirs, hmirrors, -, hunique⟩ := outputPath_mirrors wellFormed_shelf hwalked
  obtain ⟨rfl, hname⟩ := hdirs.unique hbehind
  obtain rfl : stem = "a" := (String.append_left_inj ".html").1 hname
  exact ⟨wellFormed_shelf, hwalked, hbehind, hmirrors (by decide), hunique⟩

/-- A file `..html` in the input, and an empty output. -/
def dottedShelf : FileTree where
  entries := [(["in"], .directory), (["in", "..html"], .file "<widget name=w>1</widget>".toUTF8),
    (["out"], .directory)]

theorem wellFormed_dottedShelf : dottedShelf.WellFormed where
  sorted := by decide
  ne_root := by decide
  names := by decide
  parents := by
    simp only [dottedShelf, List.forall_mem_cons]
    exact ⟨rfl, rfl, rfl, by simp⟩
  current := rfl

/-- **The result of `..html` escapes from the output**: it would be the directory around the
    output, where nothing can be written. -/
theorem outputPath_dotted :
    dottedShelf.WellFormed ∧ Walked dottedShelf "in" ["..html"] ∧
    Behind "in" "in/..html" [] "..html" ∧
    outputPath ⟨"in", "out"⟩ "in/..html" = "out/.." ∧
    ¬ Mirrors ⟨"in", "out"⟩ "in/..html" ["..yuck"] ∧
    dottedShelf.locate "out" = .ok ["out"] ∧
    dottedShelf.locate (outputPath ⟨"in", "out"⟩ "in/..html") = .ok [] ∧
    ∀ content, dottedShelf.write (outputPath ⟨"in", "out"⟩ "in/..html") content =
      .error .isDirectory := by
  have houtput : outputPath ⟨"in", "out"⟩ "in/..html" = "out/.." := by decide
  have hlocate : dottedShelf.locate "out/.." = .ok [] := rfl
  refine ⟨wellFormed_dottedShelf,
    ⟨⟨["in"], .directory, "<widget name=w>1</widget>".toUTF8, rfl, rfl⟩, by decide⟩,
    .below (by decide), houtput, fun h => ?_, rfl, houtput ▸ hlocate, ?_⟩
  · have hloc := h.located wellFormed_dottedShelf rfl (houtput ▸ hlocate)
    cases hloc
  · rw [houtput]
    exact fun content => rfl

end WidgetMarkup
