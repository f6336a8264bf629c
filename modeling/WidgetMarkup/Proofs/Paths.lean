/-
  Paths built from names.

  A name (`IsName`) is what a file system takes as the name of an entry.  Names put behind a
  path (`Path.join`, `Path.joinAll`) are its last parts and its last components, so that

  * `relativeTo?` gives them back, `extension?` looks at the last one only, and
  * `parent?` takes the last one off, together with slashes and `.` parts before it
    (`Path.trimEnd`).
-/
import WidgetMarkup.Files.FileTree

namespace WidgetMarkup

/-- A text that can be the name of an entry. -/
structure IsName (name : String) : Prop where
  ne_empty : name ≠ ""
  ne_here : name ≠ "."
  ne_up : name ≠ ".."
  no_slash : '/' ∉ name.toList
  no_nul : '\x00' ∉ name.toList
  short : name.utf8ByteSize ≤ FileTree.maxNameBytes

instance (name : String) : Decidable (IsName name) :=
  decidable_of_iff
    (name ≠ "" ∧ name ≠ "." ∧ name ≠ ".." ∧ '/' ∉ name.toList ∧ '\x00' ∉ name.toList ∧
      name.utf8ByteSize ≤ FileTree.maxNameBytes)
    ⟨fun ⟨h₁, h₂, h₃, h₄, h₅, h₆⟩ => ⟨h₁, h₂, h₃, h₄, h₅, h₆⟩,
      fun ⟨h₁, h₂, h₃, h₄, h₅, h₆⟩ => ⟨h₁, h₂, h₃, h₄, h₅, h₆⟩⟩

theorem IsName.toList_ne_nil {name : String} (h : IsName name) : name.toList ≠ [] :=
  fun hnil => h.ne_empty (String.toList_eq_nil_iff.1 hnil)

namespace Path

/-! ## Parts -/

theorem splitSlashes_ne_nil (cs : List Char) : splitSlashes cs ≠ [] := by
  cases cs with
  | nil => simp [splitSlashes]
  | cons c cs =>
    rw [splitSlashes]
    split
    · simp
    · split <;> simp

theorem splitSlashes_cons (c : Char) {cs part : List Char} {parts : List (List Char)}
    (h : splitSlashes cs = part :: parts) :
    splitSlashes (c :: cs) = if c == '/' then [] :: part :: parts else (c :: part) :: parts := by
  rw [splitSlashes, h]

theorem splitSlashes_of_notMem {cs : List Char} (h : '/' ∉ cs) : splitSlashes cs = [cs] := by
  induction cs with
  | nil => rfl
  | cons c cs ih =>
    rw [List.mem_cons, not_or] at h
    rw [splitSlashes_cons c (ih h.2), if_neg (by simpa using Ne.symm h.1)]

theorem splitSlashes_append (cs ds : List Char) :
    splitSlashes (cs ++ '/' :: ds) = splitSlashes cs ++ splitSlashes ds := by
  induction cs with
  | nil =>
    obtain ⟨part, parts, h⟩ := List.exists_cons_of_ne_nil (splitSlashes_ne_nil ds)
    rw [List.nil_append, splitSlashes_cons '/' h, h]
    rfl
  | cons c cs ih =>
    obtain ⟨part, parts, h⟩ := List.exists_cons_of_ne_nil (splitSlashes_ne_nil cs)
    rw [h, List.cons_append] at ih
    rw [List.cons_append, splitSlashes_cons c ih, splitSlashes_cons c h]
    split <;> rfl

/-- The characters of the parts are those of the text but for the slashes. -/
theorem mem_of_mem_splitSlashes {cs part : List Char} (h : part ∈ splitSlashes cs) :
    ∀ c ∈ part, c ∈ cs ∧ c ≠ '/' := by
  induction cs generalizing part with
  | nil =>
    rw [splitSlashes, List.mem_singleton] at h
    rw [h]
    exact nofun
  | cons c cs ih =>
    obtain ⟨first, rest, hsplit⟩ := List.exists_cons_of_ne_nil (splitSlashes_ne_nil cs)
    rw [splitSlashes_cons c hsplit] at h
    rw [hsplit] at ih
    have htail : ∀ p ∈ first :: rest, ∀ d ∈ p, d ∈ c :: cs ∧ d ≠ '/' := fun p hp d hd =>
      ⟨List.mem_cons_of_mem _ (ih hp d hd).1, (ih hp d hd).2⟩
    split at h
    · rcases List.mem_cons.1 h with rfl | h
      · exact nofun
      · exact htail part h
    · next hc =>
      rcases List.mem_cons.1 h with rfl | h
      · intro d hd
        rcases List.mem_cons.1 hd with rfl | hd
        · exact ⟨List.mem_cons_self, by simpa using hc⟩
        · exact htail first List.mem_cons_self d hd
      · exact htail part (List.mem_cons_of_mem _ h)

theorem parts_ne_nil (path : String) : parts path ≠ [] := by
  simp [parts, splitSlashes_ne_nil]

theorem parts_of_notMem {s : String} (h : '/' ∉ s.toList) : parts s = [s] := by
  simp [parts, splitSlashes_of_notMem h]

theorem parts_append (s t : String) : parts (s ++ "/" ++ t) = parts s ++ parts t := by
  have h : (s ++ "/" ++ t).toList = s.toList ++ '/' :: t.toList := by simp
  rw [parts, h, splitSlashes_append, List.map_append]
  rfl

theorem mem_of_mem_parts {path part : String} (h : part ∈ parts path) :
    ∀ c ∈ part.toList, c ∈ path.toList ∧ c ≠ '/' := by
  obtain ⟨cs, hcs, rfl⟩ := List.mem_map.1 h
  rw [String.toList_ofList]
  exact mem_of_mem_splitSlashes hcs

/-! ## Joining -/

/-- A name is put behind nothing, behind the slash at the end of the path, or behind a slash
    of its own. -/
theorem join_cases (path name : String) :
    (path = "" ∧ join path name = name) ∨
    (∃ q, path = q ++ "/" ∧ join path name = q ++ "/" ++ name) ∨
    (path ≠ "" ∧ join path name = path ++ "/" ++ name) := by
  rw [join]
  by_cases hempty : path = ""
  · left
    simp [hempty]
  right
  by_cases hslash : path.toList.getLast? = some '/'
  · left
    obtain ⟨q, hq⟩ := List.getLast?_eq_some_iff.1 hslash
    have hpath : path = String.ofList q ++ "/" := by
      rw [← String.toList_inj]
      simpa using hq
    refine ⟨String.ofList q, hpath, ?_⟩
    rw [if_pos (by simp [hslash]), hpath]
  · right
    refine ⟨hempty, ?_⟩
    rw [if_neg (by simp [hempty, hslash])]

theorem join_toList (path name : String) :
    ∃ gap, (join path name).toList = path.toList ++ gap ++ name.toList ∧ ∀ c ∈ gap, c = '/' := by
  rcases join_cases path name with ⟨rfl, h⟩ | ⟨q, rfl, h⟩ | ⟨-, h⟩ <;> rw [h]
  · exact ⟨[], by simp, nofun⟩
  · exact ⟨[], by simp, nofun⟩
  · exact ⟨['/'], by simp, by simp⟩

theorem joinAll_concat (path : String) (names : List String) (name : String) :
    joinAll path (names ++ [name]) = join (joinAll path names) name := by
  simp [joinAll]

theorem joinAll_cons (path name : String) (names : List String) :
    joinAll path (name :: names) = joinAll (join path name) names := rfl

theorem joinAll_append (path : String) (names more : List String) :
    joinAll path (names ++ more) = joinAll (joinAll path names) more := by
  simp [joinAll]

theorem utf8ByteSize_add_le_join (path name : String) :
    path.utf8ByteSize + name.utf8ByteSize ≤ (join path name).utf8ByteSize := by
  rcases join_cases path name with ⟨rfl, h⟩ | ⟨q, rfl, h⟩ | ⟨-, h⟩ <;> rw [h]
  · exact Nat.le_of_eq (Nat.zero_add _)
  · exact Nat.le_of_eq String.utf8ByteSize_append.symm
  · rw [String.utf8ByteSize_append, String.utf8ByteSize_append]
    omega

theorem utf8ByteSize_join_le (path name : String) :
    (join path name).utf8ByteSize ≤ path.utf8ByteSize + 1 + name.utf8ByteSize := by
  rcases join_cases path name with ⟨rfl, h⟩ | ⟨q, rfl, h⟩ | ⟨-, h⟩ <;> rw [h]
  · omega
  · rw [String.utf8ByteSize_append (t := name)]
    omega
  · exact Nat.le_of_eq (by rw [String.utf8ByteSize_append, String.utf8ByteSize_append]; rfl)

theorem utf8ByteSize_le_joinAll (path : String) (names : List String) :
    path.utf8ByteSize ≤ (joinAll path names).utf8ByteSize := by
  induction names generalizing path with
  | nil => exact Nat.le_refl _
  | cons name names ih =>
    rw [joinAll_cons]
    exact Nat.le_trans (Nat.le_of_add_right_le (utf8ByteSize_add_le_join path name)) (ih _)

section
variable {name : String}

theorem join_ne_empty (path : String) (h : name ≠ "") : join path name ≠ "" := by
  intro hempty
  obtain ⟨gap, hlist, -⟩ := join_toList path name
  rw [hempty] at hlist
  have hnil := (List.append_eq_nil_iff.1 hlist.symm).2
  exact h (String.toList_eq_nil_iff.1 hnil)

theorem parts_join_empty (h : '/' ∉ name.toList) : parts (join "" name) = [name] := by
  rw [join, if_pos (by simp), String.empty_append]
  exact parts_of_notMem h

theorem parts_join_slash (q : String) (h : '/' ∉ name.toList) :
    parts (join (q ++ "/") name) = parts q ++ [name] := by
  rw [join, if_pos (by simp), parts_append, parts_of_notMem h]

/-- The name is the last part of the new path. -/
theorem exists_parts_join (path : String) (h : '/' ∉ name.toList) :
    ∃ ps, parts (join path name) = ps ++ [name] := by
  rcases join_cases path name with ⟨rfl, -⟩ | ⟨q, rfl, -⟩ | ⟨-, hj⟩
  · exact ⟨[], parts_join_empty h⟩
  · exact ⟨parts q, parts_join_slash q h⟩
  · refine ⟨parts path, ?_⟩
    rw [hj, parts_append, parts_of_notMem h]

/-! ## Components -/

theorem component?_of_isName (h : IsName name) : component? name = some (.name name) := by
  simp [component?, h.ne_empty, h.ne_here, h.ne_up]

/-- The components of parts. -/
def componentsOf : List String → List Component
  | [] => []
  | first :: rest =>
    (if first == "" && !rest.isEmpty then [.root]
      else if first == "." then [.here]
      else (component? first).toList) ++ rest.filterMap component?

theorem components_eq (path : String) : components path = componentsOf (parts path) := by
  rw [components]
  cases parts path <;> rfl

theorem componentsOf_concat {ps : List String} (hps : ps ≠ []) (part : String) :
    componentsOf (ps ++ [part]) = componentsOf (ps ++ [""]) ++ (component? part).toList := by
  obtain ⟨first, rest, rfl⟩ := List.exists_cons_of_ne_nil hps
  have hempty : component? "" = none := rfl
  cases hc : component? part <;> simp [componentsOf, hc, hempty]

theorem componentsOf_slash {ps : List String} (hps : ps ≠ [""]) :
    componentsOf (ps ++ [""]) = componentsOf ps := by
  have hempty : component? "" = none := rfl
  match ps with
  | [] => rfl
  | [first] =>
    have hfirst : first ≠ "" := fun h => hps (by rw [h])
    simp [componentsOf, hfirst, hempty]
  | first :: second :: rest =>
    simp [componentsOf, hempty, List.filterMap_append, List.filterMap_cons]

theorem eq_empty_of_parts {path : String} (h : parts path = [""]) : path = "" := by
  rw [parts, List.map_eq_singleton_iff] at h
  obtain ⟨cs, hcs, hempty⟩ := h
  obtain rfl : cs = [] := by simpa using hempty
  cases hl : path.toList with
  | nil => exact String.toList_eq_nil_iff.1 hl
  | cons c cs =>
    rw [hl] at hcs
    obtain ⟨part, parts, hsplit⟩ := List.exists_cons_of_ne_nil (splitSlashes_ne_nil cs)
    rw [splitSlashes_cons c hsplit] at hcs
    split at hcs <;> simp at hcs

/-- A part with a component, put behind a path, is its last one. -/
theorem components_join_part (path : String) {part : String} {c : Component}
    (hslash : '/' ∉ part.toList) (hpart : component? part = some c) :
    components (join path part) = components path ++ [c] := by
  have hlist : (component? part).toList = [c] := by simp [hpart]
  have hhere : part ≠ "." := by
    rintro rfl
    cases hpart
  rw [components_eq, components_eq]
  rcases join_cases path part with ⟨rfl, -⟩ | ⟨q, rfl, -⟩ | ⟨hne, hj⟩
  · rw [parts_join_empty hslash, show componentsOf (parts "") = [] from rfl, componentsOf]
    simp [hhere, hlist]
  · have hparts : parts (q ++ "/") = parts q ++ [""] := by
      have hparts := parts_append q ""
      rwa [String.append_empty] at hparts
    rw [parts_join_slash q hslash, hparts, componentsOf_concat (parts_ne_nil q), hlist]
  · rw [hj, parts_append, parts_of_notMem hslash, componentsOf_concat (parts_ne_nil path),
      hlist, componentsOf_slash fun hparts => hne (eq_empty_of_parts hparts)]

/-- **A name put behind a path is its last component.** -/
theorem components_join (path : String) (h : IsName name) :
    components (join path name) = components path ++ [.name name] :=
  components_join_part path h.no_slash (component?_of_isName h)

theorem fileName?_join (path : String) (h : IsName name) :
    fileName? (join path name) = some name := by
  rw [fileName?, components_join path h, List.getLast?_concat]

theorem extension?_join (path : String) (h : IsName name) :
    extension? (join path name) = (splitExtension name).2 := by
  rw [extension?, fileName?_join path h, Option.bind_some]

end

theorem components_joinAll {names : List String} (h : ∀ name ∈ names, IsName name)
    (path : String) :
    components (joinAll path names) = components path ++ names.map .name := by
  induction names generalizing path with
  | nil => simp [joinAll]
  | cons name names ih =>
    rw [joinAll_cons, ih (fun n hn => h n (List.mem_cons_of_mem _ hn)),
      components_join path (h name List.mem_cons_self)]
    simp

theorem stripBase?_append (bs cs : List Component) : stripBase? bs (bs ++ cs) = some cs := by
  induction bs with
  | nil => rfl
  | cons b bs ih =>
    rw [List.cons_append, stripBase?, if_pos rfl]
    exact ih

/-- **Names put behind a path are what is left behind it.** -/
theorem relativeTo?_joinAll {names : List String} (h : ∀ name ∈ names, IsName name)
    (path : String) : relativeTo? path (joinAll path names) = some (names.map .name) := by
  rw [relativeTo?, components_joinAll h, stripBase?_append]

theorem joinAll_injective {names more : List String} {path : String}
    (h : ∀ name ∈ names, IsName name) (h' : ∀ name ∈ more, IsName name)
    (heq : joinAll path names = joinAll path more) : names = more := by
  have hrel := relativeTo?_joinAll h path
  rw [heq, relativeTo?_joinAll h' path, Option.some.injEq] at hrel
  exact ((List.map_inj_right fun _ _ hn => Component.name.inj hn).1 hrel).symm

/-! ## Parents -/

/-- The path without slashes and `.` parts at its end. -/
def trimEnd (path : String) : String :=
  String.ofList (trimEndBackwards path.toList.reverse).reverse

theorem trimEndBackwards_eq_self {c : Char} {cs : List Char} (hc : c ≠ '/')
    (hdot : c = '.' → cs.head? ≠ some '/') : trimEndBackwards (c :: cs) = c :: cs := by
  unfold trimEndBackwards
  split
  · next heq => exact absurd (List.cons.inj heq).1 hc
  · next heq =>
    obtain ⟨rfl, rfl⟩ := List.cons.inj heq
    exact absurd rfl (hdot rfl)
  · rfl

theorem component?_eq_some {part : String} {c : Component} (h : component? part = some c) :
    part ≠ "" ∧ part ≠ "." ∧ c ≠ .root := by
  rw [component?] at h
  split at h
  · cases h
  · next hblank =>
    simp only [Bool.or_eq_true, beq_iff_eq, not_or] at hblank
    refine ⟨hblank.1, hblank.2, ?_⟩
    rintro rfl
    split at h <;> cases h

theorem trimEndBackwards_part {part : String} (hslash : '/' ∉ part.toList) (hne : part ≠ "")
    (hhere : part ≠ ".") (cs : List Char) :
    trimEndBackwards (part.toList.reverse ++ cs) = part.toList.reverse ++ cs := by
  have hrevne : part.toList.reverse ≠ [] := by
    rw [Ne, List.reverse_eq_nil_iff, String.toList_eq_nil_iff]
    exact hne
  obtain ⟨c, rest, hrev⟩ := List.exists_cons_of_ne_nil hrevne
  have hmem : ∀ d ∈ c :: rest, d ≠ '/' := by
    rintro d hd rfl
    rw [← hrev, List.mem_reverse] at hd
    exact hslash hd
  rw [hrev, List.cons_append]
  refine trimEndBackwards_eq_self (hmem c List.mem_cons_self) ?_
  rintro rfl
  cases rest with
  | nil =>
    -- the part would be `.`
    refine absurd ?_ hhere
    rw [← String.toList_inj, ← List.reverse_reverse part.toList, hrev]
    rfl
  | cons d rest =>
    rw [List.cons_append, List.head?_cons, Ne, Option.some.injEq]
    exact hmem d (by simp)

theorem trimEnd_join (path : String) {name : String} (h : IsName name) :
    trimEnd (join path name) = join path name := by
  have hname := trimEndBackwards_part h.no_slash h.ne_empty h.ne_here
  have hrev : trimEndBackwards (join path name).toList.reverse =
      (join path name).toList.reverse := by
    rcases join_cases path name with ⟨rfl, hj⟩ | ⟨q, rfl, hj⟩ | ⟨-, hj⟩ <;> rw [hj]
    · have := hname []
      rwa [List.append_nil] at this
    · rw [String.toList_append, List.reverse_append]
      exact hname _
    · rw [String.toList_append, List.reverse_append]
      exact hname _
  rw [trimEnd, hrev, List.reverse_reverse, String.ofList_toList]

/-- **The parent of a part behind a path is the path**, up to slashes and `.` parts. -/
theorem parent?_join (path : String) {part : String} {c : Component}
    (hslash : '/' ∉ part.toList) (hpart : component? part = some c) :
    parent? (join path part) = some (trimEnd path) := by
  obtain ⟨hempty, hhere, hroot⟩ := component?_eq_some hpart
  have hname := trimEndBackwards_part hslash hempty hhere
  -- backwards, the part ends at the first slash, and that slash goes with it
  have hdrop : ∀ cs : List Char, cs.head? = some '/' ∨ cs = [] →
      (part.toList.reverse ++ cs).dropWhile (· != '/') = cs := by
    intro cs hcs
    rw [List.dropWhile_append_of_pos]
    · rcases hcs with hcs | rfl
      · obtain ⟨rest, rfl⟩ := List.head?_eq_some_iff.1 hcs
        rfl
      · rfl
    · rintro c hc
      rw [List.mem_reverse] at hc
      exact bne_iff_ne.2 fun heq => hslash (heq ▸ hc)
  have hrest : trimEndBackwards ((trimEndBackwards (join path part).toList.reverse).dropWhile
      (· != '/')) = trimEndBackwards path.toList.reverse := by
    rcases join_cases path part with ⟨rfl, hj⟩ | ⟨q, rfl, hj⟩ | ⟨hne, hj⟩ <;> rw [hj]
    · have hwhole := hname []
      have hnone := hdrop [] (.inr rfl)
      rw [List.append_nil] at hwhole hnone
      rw [hwhole, hnone]
      rfl
    · rw [String.toList_append (t := part), List.reverse_append, hname, hdrop _ (.inl (by simp))]
    · rw [String.toList_append (t := part), List.reverse_append, hname, hdrop _ (.inl (by simp))]
      have hslash : (path ++ "/").toList.reverse = '/' :: path.toList.reverse := by simp
      rw [hslash, trimEndBackwards, if_neg (by simpa using hne)]
  rw [parent?, components_join_part path hslash hpart, List.getLast?_concat]
  cases c with
  | root => exact absurd rfl hroot
  | here | up | name =>
    dsimp only
    rw [hrest, trimEnd]

/-! ## Extensions -/

/-- A name with an extension is its stem, a dot and the extension. -/
theorem eq_of_splitExtension {name stem ext : String}
    (h : splitExtension name = (stem, some ext)) :
    name = stem ++ "." ++ ext ∧ stem ≠ "" ∧ '.' ∉ ext.toList := by
  rw [splitExtension] at h
  have hsplit := List.takeWhile_append_dropWhile (p := (· != '.')) (l := name.toList.reverse)
  have hdots : ∀ c ∈ name.toList.reverse.takeWhile (· != '.'), c ≠ '.' := by
    intro c hc
    have hall := List.all_eq_true.1 (List.all_takeWhile (p := (· != '.'))) c hc
    exact bne_iff_ne.1 hall
  have hhead := List.head?_dropWhile_not (· != '.') name.toList.reverse
  generalize name.toList.reverse.takeWhile (· != '.') = last at *
  generalize name.toList.reverse.dropWhile (· != '.') = front at *
  have hname : name.toList = front.reverse ++ last.reverse := by
    rw [← List.reverse_append, hsplit, List.reverse_reverse]
  rw [← hsplit, List.drop_left] at h
  cases front with
  | nil => simp at h
  | cons c stem' =>
    obtain rfl : c = '.' := by simpa using hhead
    dsimp only at h
    split at h
    · simp at h
    · next hstem =>
      simp only [Prod.mk.injEq, Option.some.injEq] at h
      obtain ⟨rfl, rfl⟩ := h
      simp only [Bool.or_eq_true, not_or] at hstem
      refine ⟨?_, by simpa using hstem.1, ?_⟩
      · rw [← String.toList_inj, hname]
        simp
      · rw [String.toList_ofList, List.mem_reverse]
        exact fun hmem => hdots '.' hmem rfl

theorem splitExtension_append {stem ext : String} (hstem : stem ≠ "") (hext : '.' ∉ ext.toList)
    (hup : stem ++ "." ++ ext ≠ "..") :
    splitExtension (stem ++ "." ++ ext) = (stem, some ext) := by
  have hrev : (stem ++ "." ++ ext).toList.reverse =
      ext.toList.reverse ++ '.' :: stem.toList.reverse := by simp
  have htake : (ext.toList.reverse ++ '.' :: stem.toList.reverse).takeWhile (· != '.') =
      ext.toList.reverse := by
    rw [List.takeWhile_append_of_pos]
    · simp
    · intro c hc
      rw [List.mem_reverse] at hc
      exact bne_iff_ne.2 fun heq => hext (heq ▸ hc)
  rw [splitExtension, hrev, htake, List.drop_left]
  simp only [Bool.or_eq_true, List.isEmpty_iff, List.reverse_eq_nil_iff, beq_iff_eq]
  rw [if_neg (by simpa [String.toList_eq_nil_iff, hstem] using hup)]
  simp

section
variable {name : String}

/-- A name with the extension `html`. -/
def IsHtmlName (name : String) : Prop :=
  (splitExtension name).2 = some "html"

instance (name : String) : Decidable (IsHtmlName name) :=
  inferInstanceAs (Decidable ((splitExtension name).2 = some "html"))

theorem IsHtmlName.exists_stem (h : IsHtmlName name) :
    ∃ stem, name = stem ++ ".html" ∧ stem ≠ "" ∧
      setExtension "yuck" name = if stem = "." then ".." else stem ++ ".yuck" := by
  have hsplit : splitExtension name = ((splitExtension name).1, some "html") := by
    rw [← h]
  obtain ⟨hname, hstem, -⟩ := eq_of_splitExtension hsplit
  refine ⟨(splitExtension name).1, ?_, hstem, ?_⟩
  · rwa [String.append_assoc] at hname
  · rw [setExtension, hsplit]
    simp only [beq_iff_eq, String.append_assoc]
    rfl

/-- What a result is named: the stem of its source and `yuck`, but for `..html`. -/
theorem IsHtmlName.setExtension_cases (h : IsHtmlName name) :
    setExtension "yuck" name = ".." ∨
    ∃ stem, name = stem ++ ".html" ∧ setExtension "yuck" name = stem ++ ".yuck" ∧
      stem ≠ "" := by
  obtain ⟨stem, hname, hstem, htarget⟩ := h.exists_stem
  by_cases hdot : stem = "."
  · rw [if_pos hdot] at htarget
    exact .inl htarget
  · rw [if_neg hdot] at htarget
    exact .inr ⟨stem, hname, htarget, hstem⟩

theorem ne_of_yuck (stem : String) {s : String} (h : s.toList.length < 5) :
    stem ++ ".yuck" ≠ s := by
  rintro rfl
  rw [String.toList_append, List.length_append] at h
  exact absurd h (Nat.not_lt.2 (Nat.le_add_left 5 _))

theorem IsHtmlName.exists_component? (h : IsHtmlName name) :
    ∃ c, component? (setExtension "yuck" name) = some c := by
  rcases h.setExtension_cases with hup | ⟨stem, -, htarget, -⟩
  · rw [hup]
    exact ⟨.up, rfl⟩
  · refine ⟨.name (stem ++ ".yuck"), ?_⟩
    have hempty : stem ++ ".yuck" ≠ "" := ne_of_yuck stem (by decide)
    have hhere : stem ++ ".yuck" ≠ "." := ne_of_yuck stem (by decide)
    have hup : stem ++ ".yuck" ≠ ".." := ne_of_yuck stem (by decide)
    rw [htarget, component?, if_neg (by simp [hempty, hhere]), if_neg (by simpa using hup)]

theorem IsHtmlName.notMem_slash (h : IsHtmlName name) (hslash : '/' ∉ name.toList) :
    '/' ∉ (setExtension "yuck" name).toList := by
  rcases h.setExtension_cases with hup | ⟨stem, rfl, htarget, -⟩
  · rw [hup]
    decide
  · rw [htarget]
    rw [String.toList_append, List.mem_append, not_or] at hslash ⊢
    exact ⟨hslash.1, by decide⟩

/-- A result is named with the extension `yuck`, but for `..html`. -/
theorem IsHtmlName.splitExtension_setExtension (h : IsHtmlName name)
    (hup : setExtension "yuck" name ≠ "..") :
    (splitExtension (setExtension "yuck" name)).2 = some "yuck" := by
  obtain ⟨stem, -, htarget, hstem⟩ := h.setExtension_cases.resolve_left hup
  have hsplit := splitExtension_append hstem (by decide : '.' ∉ "yuck".toList)
    (by rw [String.append_assoc]; exact ne_of_yuck stem (by decide))
  rw [String.append_assoc] at hsplit
  rw [htarget, show stem ++ ".yuck" = stem ++ ("." ++ "yuck") from rfl, hsplit]

/-- No result is named like a source. -/
theorem IsHtmlName.not_isHtmlName (h : IsHtmlName name) :
    ¬ IsHtmlName (setExtension "yuck" name) := by
  by_cases hup : setExtension "yuck" name = ".."
  · rw [hup]
    decide
  · rw [IsHtmlName, h.splitExtension_setExtension hup]
    exact fun heq => absurd (Option.some.inj heq) (by decide)

/-- Sources with different names have results with different names. -/
theorem IsHtmlName.setExtension_injective {other : String} (h : IsHtmlName name)
    (h' : IsHtmlName other) (heq : setExtension "yuck" name = setExtension "yuck" other) :
    name = other := by
  obtain ⟨stem, rfl, -, htarget⟩ := h.exists_stem
  obtain ⟨stem', rfl, -, htarget'⟩ := h'.exists_stem
  rw [htarget, htarget'] at heq
  have hup : ∀ stem, stem ++ ".yuck" ≠ ".." := fun stem => ne_of_yuck stem (by decide)
  by_cases hdot : stem = "." <;> by_cases hdot' : stem' = "."
  · rw [hdot, hdot']
  · rw [if_pos hdot, if_neg hdot'] at heq
    exact absurd heq.symm (hup stem')
  · rw [if_neg hdot, if_pos hdot'] at heq
    exact absurd heq (hup stem)
  · rw [if_neg hdot, if_neg hdot', String.append_left_inj] at heq
    rw [heq]

end

end Path

end WidgetMarkup
