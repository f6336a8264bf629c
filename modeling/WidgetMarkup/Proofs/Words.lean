/-
  The words of a command line.

  Where options may stand, an argument is a value, a number of flags or an option, by its form
  alone (`kind?`).  A value is a path, or belongs to the option in front of it.  So a command
  line consists of words (`words?`): paths, flags and settings, which are options with their
  values.

  * `words?_append`: the words of a command line are those of its parts.
  * `HasKind` lists the forms of each kind, and `kind?` recognizes them (`hasKind_of_kind?`,
    `kind?_of_hasKind`).
  * `positionals`, `raises`: the paths of a command line and its flags, counted on the arguments
    (`positionals_of_words?`, `sum_raises_of_words?`).
-/
import Mathlib.Algebra.Ring.Nat
import Mathlib.Data.List.TakeWhile
import Mathlib.Tactic.SplitIfs
import WidgetMarkup.Arguments

namespace WidgetMarkup

/-! ## Arguments and words -/

/-- What an argument is where options may stand. -/
inductive ArgumentKind where
  /-- A path, or the value of the option in front of it. -/
  | value
  /-- So many flags that raise the verbosity. -/
  | flags (count : Nat)
  /-- An option, with its value if that is in the same argument. -/
  | option (o : ValueOption) (value : Option String)

/-- What a flag or option with a long name is. -/
def longKind? (name : String) (value : Option String) : Option ArgumentKind :=
  if name = "verbosity" then if value.isSome then none else some (.flags 1)
  else if name = "diagnostic-format" then some (.option .format value)
  else if name = "color" then some (.option .color value)
  else none

/-- What an argument is, unless it leads to no run or ends the options. -/
def kind? (argument : String) : Option ArgumentKind :=
  match argument.toList with
  | '-' :: '-' :: cs => longKind? (Reader.splitEquals cs).1 (Reader.splitEquals cs).2
  | '-' :: c :: cs =>
    if (c :: cs).all (· == 'v') then some (.flags (c :: cs).length) else none
  | _ => some .value

theorem kind?_long {argument : String} {cs : List Char}
    (h : argument.toList = '-' :: '-' :: cs) :
    kind? argument = longKind? (Reader.splitEquals cs).1 (Reader.splitEquals cs).2 := by
  simp [kind?, h]

theorem kind?_letters {argument : String} {c : Char} {cs : List Char}
    (h : argument.toList = '-' :: c :: cs) (hc : c ≠ '-') :
    kind? argument =
      if (c :: cs).all (· == 'v') then some (.flags (c :: cs).length) else none := by
  rw [kind?, h]
  split
  next h' => cases h'; contradiction
  next h' => cases h'; rfl
  next h' => exact absurd rfl (h' _ _)

theorem kind?_value {argument : String} (h : ∀ c cs, argument.toList ≠ '-' :: c :: cs) :
    kind? argument = some .value := by
  simp [kind?, h]

/-- What an accepted command line consists of. -/
inductive Word where
  | path (path : String)
  | flags (count : Nat)
  | setting (o : ValueOption) (value : String)

/-- The words that an argument completes, behind an option that awaits its value if one is
    given, and the option that awaits its value then. -/
def step? (awaited : Option ValueOption) (argument : String) :
    Option (List Word × Option ValueOption) :=
  match awaited, kind? argument with
  | none, some .value => some ([.path argument], none)
  | some o, some .value => some ([.setting o argument], none)
  | none, some (.flags count) => some ([.flags count], none)
  | none, some (.option o (some value)) => some ([.setting o value], none)
  | none, some (.option o none) => some ([], some o)
  | _, _ => none

/-- The words that arguments complete, and the option that awaits its value behind them. -/
def scan? (awaited : Option ValueOption) :
    List String → Option (List Word × Option ValueOption)
  | [] => some ([], awaited)
  | argument :: arguments =>
    (step? awaited argument).bind fun (words, awaited) =>
      (scan? awaited arguments).map fun (words', awaited) => (words ++ words', awaited)

/-- The arguments in front of the end of the options. -/
def front (arguments : List String) : List String :=
  arguments.takeWhile (· ≠ "--")

/-- The end of the options and the arguments behind it. -/
def rest (arguments : List String) : List String :=
  arguments.dropWhile (· ≠ "--")

/-- The arguments behind the end of the options. -/
def back (arguments : List String) : List String :=
  (rest arguments).tail

theorem front_append_rest (arguments : List String) :
    front arguments ++ rest arguments = arguments :=
  List.takeWhile_append_dropWhile

theorem not_mem_front (arguments : List String) : "--" ∉ front arguments := by
  intro h
  simpa using List.mem_takeWhile_imp h

theorem head?_rest (arguments : List String) :
    ∀ argument ∈ (rest arguments).head?, argument = "--" := by
  intro argument h
  have hnot := List.head?_dropWhile_not (· ≠ "--") arguments
  rw [← rest, h] at hnot
  simpa using hnot

/-- The words of a command line, behind an option that awaits its value if one is given. -/
def words? (awaited : Option ValueOption) (arguments : List String) : Option (List Word) :=
  (scan? awaited (front arguments)).bind fun (words, awaited) =>
    if awaited.isNone then some (words ++ (back arguments).map .path) else none

theorem front_append {xs : List String} (h : "--" ∉ xs) (ys : List String) :
    front (xs ++ ys) = xs ++ front ys :=
  List.takeWhile_append_of_pos fun x hx => by simpa using ne_of_mem_of_not_mem hx h

theorem back_append {xs : List String} (h : "--" ∉ xs) (ys : List String) :
    back (xs ++ ys) = back ys := by
  rw [back, rest, List.dropWhile_append_of_pos fun x hx => by
    simpa using ne_of_mem_of_not_mem hx h]
  rfl

/-! ## Parts of a command line -/

theorem scan?_append (awaited : Option ValueOption) (xs ys : List String) :
    scan? awaited (xs ++ ys) =
      (scan? awaited xs).bind fun (us, awaited) =>
        (scan? awaited ys).map fun (vs, awaited) => (us ++ vs, awaited) := by
  induction xs generalizing awaited with
  | nil => simp [scan?]
  | cons x xs ih =>
    rw [List.cons_append, scan?, scan?, Option.bind_assoc]
    refine Option.bind_congr fun ⟨us, awaited⟩ _ => ?_
    dsimp only
    rw [ih]
    rcases scan? awaited xs with _ | ⟨vs, awaited⟩
    · rfl
    · simp [Function.comp_def]

/-- The words of two parts, the first of which does not end the options. -/
theorem words?_append (awaited : Option ValueOption) {xs : List String} (h : "--" ∉ xs)
    (ys : List String) :
    words? awaited (xs ++ ys) =
      (scan? awaited xs).bind fun (us, awaited) => (words? awaited ys).map (us ++ ·) := by
  rw [words?, front_append h, back_append h, scan?_append, Option.bind_assoc]
  refine Option.bind_congr fun ⟨us, awaited⟩ _ => ?_
  dsimp only
  rw [words?]
  rcases scan? awaited (front ys) with _ | ⟨vs, _ | o⟩
  · rfl
  · simp
  · rfl

theorem words?_append_of_scan? {awaited awaited' : Option ValueOption} {xs : List String}
    {us : List Word} (h : "--" ∉ xs) (hscan : scan? awaited xs = some (us, awaited'))
    (ys : List String) : words? awaited (xs ++ ys) = (words? awaited' ys).map (us ++ ·) := by
  rw [words?_append awaited h, hscan]
  rfl

theorem words?_append_eq_some {awaited : Option ValueOption} {xs ys : List String}
    {words : List Word} (h : "--" ∉ xs) (hwords : words? awaited (xs ++ ys) = some words) :
    ∃ us awaited' vs, scan? awaited xs = some (us, awaited') ∧ words? awaited' ys = some vs ∧
      words = us ++ vs := by
  rw [words?_append awaited h, Option.bind_eq_some_iff] at hwords
  obtain ⟨⟨us, awaited'⟩, hscan, hwords⟩ := hwords
  obtain ⟨vs, hvs, rfl⟩ := Option.map_eq_some_iff.1 hwords
  exact ⟨us, awaited', vs, hscan, hvs, rfl⟩

/-! ## The forms of arguments -/

/-- The name of an option, as an argument. -/
def ValueOption.name : ValueOption → String
  | .format => "--diagnostic-format"
  | .color => "--color"

/-- The arguments that are of a kind, by their form. -/
inductive HasKind : String → ArgumentKind → Prop
  | value {argument : String} :
      (∀ c cs, argument.toList ≠ '-' :: c :: cs) → HasKind argument .value
  | letters (n : Nat) :
      HasKind (String.ofList ('-' :: List.replicate (n + 1) 'v')) (.flags (n + 1))
  | verbosity : HasKind "--verbosity" (.flags 1)
  | option (o : ValueOption) : HasKind o.name (.option o none)
  | setting (o : ValueOption) (value : String) :
      HasKind (o.name ++ "=" ++ value) (.option o (some value))

theorem splitEquals_append {name : List Char} (h : '=' ∉ name) (value : List Char) :
    Reader.splitEquals (name ++ '=' :: value) =
      (String.ofList name, some (String.ofList value)) := by
  have hname : (name ++ '=' :: value).takeWhile (· != '=') = name := by
    rw [List.takeWhile_append_of_pos fun c hc => by simpa using ne_of_mem_of_not_mem hc h]
    simp
  rw [Reader.splitEquals]
  simp only [hname, List.drop_left]

theorem splitEquals_of_not_mem {cs : List Char} (h : '=' ∉ cs) :
    Reader.splitEquals cs = (String.ofList cs, none) := by
  have hname : cs.takeWhile (· != '=') = cs :=
    List.takeWhile_eq_self_iff.2 fun c hc => by simpa using ne_of_mem_of_not_mem hc h
  rw [Reader.splitEquals]
  simp only [hname, List.drop_length]

theorem longKind?_eq_some {name : String} {value : Option String} {kind : ArgumentKind}
    (h : longKind? name value = some kind) :
    name = "verbosity" ∧ value = none ∧ kind = .flags 1 ∨
      ∃ o : ValueOption, o.name = "--" ++ name ∧ kind = .option o value := by
  unfold longKind? at h
  split_ifs at h with hverbosity hvalue hformat hcolor <;> cases h
  · exact .inl ⟨hverbosity, by simpa using hvalue, rfl⟩
  · exact .inr ⟨.format, hformat ▸ rfl, rfl⟩
  · exact .inr ⟨.color, hcolor ▸ rfl, rfl⟩

/-- A long name and its value make up the argument. -/
theorem hasKind_of_longKind? {cs : List Char} {kind : ArgumentKind}
    (h : longKind? (Reader.splitEquals cs).1 (Reader.splitEquals cs).2 = some kind) :
    HasKind (String.ofList ('-' :: '-' :: cs)) kind := by
  by_cases hcs : '=' ∈ cs
  · obtain ⟨name, value, rfl, hname⟩ := List.eq_append_cons_of_mem hcs
    rw [splitEquals_append hname] at h
    obtain ⟨-, ⟨⟩, -⟩ | ⟨o, ho, rfl⟩ := longKind?_eq_some h
    have hargument : String.ofList ('-' :: '-' :: (name ++ '=' :: value)) =
        o.name ++ "=" ++ String.ofList value := by
      apply String.toList_inj.1
      simp [ho]
    exact hargument ▸ .setting o _
  · rw [splitEquals_of_not_mem hcs] at h
    obtain ⟨hname, -, rfl⟩ | ⟨o, ho, rfl⟩ := longKind?_eq_some h
    · obtain rfl : cs = "verbosity".toList := by rw [← hname, String.toList_ofList]
      exact .verbosity
    · have hargument : String.ofList ('-' :: '-' :: cs) = o.name := by
        apply String.toList_inj.1
        simp [ho]
      exact hargument ▸ .option o

/-- `kind?` is right about the form of an argument. -/
theorem hasKind_of_kind? {argument : String} {kind : ArgumentKind}
    (h : kind? argument = some kind) : HasKind argument kind := by
  unfold kind? at h
  split at h
  next cs hcs =>
    have hargument : argument = String.ofList ('-' :: '-' :: cs) := by
      rw [← hcs, String.ofList_toList]
    exact hargument ▸ hasKind_of_longKind? h
  next c cs _ hcs =>
    rw [Option.ite_none_right_eq_some] at h
    obtain ⟨hall, ⟨⟩⟩ := h
    have hargument : argument = String.ofList ('-' :: List.replicate (cs.length + 1) 'v') := by
      have hletters : c :: cs = List.replicate (cs.length + 1) 'v' :=
        List.eq_replicate_iff.2 ⟨rfl, by simpa using hall⟩
      rw [← hletters, ← hcs, String.ofList_toList]
    exact hargument ▸ .letters cs.length
  next hcs =>
    cases h
    exact .value hcs

/-- `kind?` knows all forms. -/
theorem kind?_of_hasKind {argument : String} {kind : ArgumentKind}
    (h : HasKind argument kind) : kind? argument = some kind := by
  cases h with
  | value h => exact kind?_value h
  | letters n =>
    rw [List.replicate_succ, kind?_letters String.toList_ofList (by decide)]
    simp
  | verbosity => rfl
  | option o => cases o <;> rfl
  | setting o value =>
    cases o with
    | format =>
      have hchars : (ValueOption.format.name ++ "=" ++ value).toList =
          '-' :: '-' :: ("diagnostic-format".toList ++ '=' :: value.toList) := by
        simp [ValueOption.name]
      rw [kind?_long hchars, splitEquals_append (by decide)]
      simp [longKind?]
    | color =>
      have hchars : (ValueOption.color.name ++ "=" ++ value).toList =
          '-' :: '-' :: ("color".toList ++ '=' :: value.toList) := by
        simp [ValueOption.name]
      rw [kind?_long hchars, splitEquals_append (by decide)]
      simp [longKind?]

/-! ## Positional arguments and flags -/

/-- Whether an argument has the form of a value: it does not begin with a dash, or is just one. -/
def isValue (argument : String) : Bool :=
  argument.toList.head? != some '-' || argument == "-"

/-- Whether an argument is an option that takes the next argument as its value. -/
def takesNext (argument : String) : Bool :=
  argument == "--color" || argument == "--diagnostic-format"

/-- The values among arguments in front of the end of the options, without those that belong to
    options.  If `skips`, then the first one does. -/
def values (skips : Bool) : List String → List String
  | [] => []
  | argument :: arguments =>
    if isValue argument then
      if skips then values false arguments else argument :: values false arguments
    else values (takesNext argument) arguments

/-- The positional arguments of a command line. -/
def positionals (arguments : List String) : List String :=
  values false (front arguments) ++ back arguments

/-- How often an argument raises the verbosity: once by name, and once with each letter. -/
def raises (argument : String) : Nat :=
  if argument = "--verbosity" then 1
  else match argument.toList with
    | '-' :: '-' :: _ => 0
    | '-' :: letters => letters.count 'v'
    | _ => 0

/-- How often an argument of a kind raises the verbosity. -/
def ArgumentKind.count : ArgumentKind → Nat
  | .flags count => count
  | _ => 0

namespace HasKind

variable {argument : String} {kind kind' : ArgumentKind}

/-- An argument is of one kind only. -/
theorem unique (h : HasKind argument kind) (h' : HasKind argument kind') : kind = kind' :=
  Option.some.inj ((kind?_of_hasKind h).symm.trans (kind?_of_hasKind h'))

theorem isValue_iff (h : HasKind argument kind) : isValue argument ↔ kind = .value := by
  constructor
  · intro hvalue
    refine h.unique (.value fun c cs hcs => ?_)
    obtain hhead | rfl : argument.toList.head? ≠ some '-' ∨ argument = "-" := by
      simpa [isValue] using hvalue
    · exact hhead (by rw [hcs]; rfl)
    · cases hcs
  · rintro rfl
    cases h with
    | value h =>
      by_contra hnot
      obtain ⟨hhead, hne⟩ : argument.toList.head? = some '-' ∧ argument ≠ "-" := by
        simpa [isValue] using hnot
      obtain ⟨cs, hcs⟩ := List.head?_eq_some_iff.1 hhead
      cases cs with
      | nil => exact hne (String.toList_inj.1 hcs)
      | cons c cs => exact h c cs hcs

theorem takesNext_iff (h : HasKind argument kind) :
    takesNext argument ↔ ∃ o, kind = .option o none := by
  constructor
  · intro hnext
    obtain rfl | rfl : argument = "--color" ∨ argument = "--diagnostic-format" := by
      simpa [takesNext] using hnext
    · exact ⟨.color, h.unique (.option .color)⟩
    · exact ⟨.format, h.unique (.option .format)⟩
  · rintro ⟨o, rfl⟩
    cases h with
    | option => cases o <;> rfl

theorem raises_eq (h : HasKind argument kind) : raises argument = kind.count := by
  cases h with
  | value h =>
    have hne : argument ≠ "--verbosity" := by rintro rfl; exact h '-' _ rfl
    rw [raises, if_neg hne]
    split
    next hcs => exact absurd hcs (h _ _)
    next letters _ hcs =>
      cases letters with
      | nil => rfl
      | cons => exact absurd hcs (h _ _)
    next => rfl
  | letters n =>
    have hne : String.ofList ('-' :: List.replicate (n + 1) 'v') ≠ "--verbosity" := by
      intro h
      simpa [List.replicate_succ] using congrArg String.toList h
    rw [raises, if_neg hne, String.toList_ofList, List.replicate_succ]
    simp [ArgumentKind.count]
  | verbosity => rfl
  | option o => cases o <;> rfl
  | setting o value =>
    have hne : o.name ++ "=" ++ value ≠ "--verbosity" := by
      intro h
      cases o <;> simpa [ValueOption.name] using congrArg String.toList h
    rw [raises, if_neg hne]
    cases o <;> simp [ValueOption.name, ArgumentKind.count]

end HasKind

/-- The path that a word is. -/
def Word.path? : Word → Option String
  | .path p => some p
  | _ => none

/-- How often a word raises the verbosity. -/
def Word.count : Word → Nat
  | .flags count => count
  | _ => 0

section

variable {awaited awaited' : Option ValueOption} {words : List Word}

theorem values_of_step? {argument : String} (h : step? awaited argument = some (words, awaited'))
    (arguments : List String) :
    values awaited.isSome (argument :: arguments) =
      words.filterMap Word.path? ++ values awaited'.isSome arguments := by
  unfold step? at h
  split at h <;> cases h
  all_goals
    rename_i hk
    have hvalue := (hasKind_of_kind? hk).isValue_iff
    have hnext := (hasKind_of_kind? hk).takesNext_iff
    simp_all [values, Word.path?]

theorem raises_of_step? {argument : String} (h : step? awaited argument = some (words, awaited')) :
    raises argument = (words.map Word.count).sum := by
  unfold step? at h
  split at h <;> cases h
  all_goals
    rename_i hk
    rw [(hasKind_of_kind? hk).raises_eq]
    rfl

theorem values_of_scan? {arguments : List String}
    (h : scan? awaited arguments = some (words, awaited')) :
    values awaited.isSome arguments = words.filterMap Word.path? := by
  induction arguments generalizing awaited words with
  | nil => cases h; rfl
  | cons argument arguments ih =>
    rw [scan?, Option.bind_eq_some_iff] at h
    obtain ⟨⟨us, o⟩, hstep, hscan⟩ := h
    obtain ⟨⟨vs, o'⟩, hscan, ⟨⟩⟩ := Option.map_eq_some_iff.1 hscan
    rw [values_of_step? hstep, ih hscan, List.filterMap_append]

theorem sum_raises_of_scan? {arguments : List String}
    (h : scan? awaited arguments = some (words, awaited')) :
    (arguments.map raises).sum = (words.map Word.count).sum := by
  induction arguments generalizing awaited words with
  | nil => cases h; rfl
  | cons argument arguments ih =>
    rw [scan?, Option.bind_eq_some_iff] at h
    obtain ⟨⟨us, o⟩, hstep, hscan⟩ := h
    obtain ⟨⟨vs, o'⟩, hscan, ⟨⟩⟩ := Option.map_eq_some_iff.1 hscan
    rw [List.map_cons, List.sum_cons, raises_of_step? hstep, ih hscan, List.map_append,
      List.sum_append]

end

theorem words?_eq_some {awaited : Option ValueOption} {arguments : List String}
    {words : List Word} (h : words? awaited arguments = some words) :
    ∃ us, scan? awaited (front arguments) = some (us, none) ∧
      words = us ++ (back arguments).map .path := by
  rw [words?, Option.bind_eq_some_iff] at h
  obtain ⟨⟨us, _ | o⟩, hscan, ⟨⟩⟩ := h
  exact ⟨us, hscan, rfl⟩

/-- The positional arguments are the paths among the words. -/
theorem positionals_of_words? {arguments : List String} {words : List Word}
    (h : words? none arguments = some words) :
    positionals arguments = words.filterMap Word.path? := by
  obtain ⟨us, hscan, rfl⟩ := words?_eq_some h
  have hback : ((back arguments).map Word.path).filterMap Word.path? = back arguments := by
    rw [List.filterMap_map]
    exact List.filterMap_some
  rw [positionals, List.filterMap_append, ← values_of_scan? hscan, hback]
  rfl

/-- The arguments in front of the end of the options raise the verbosity as the words do. -/
theorem sum_raises_of_words? {arguments : List String} {words : List Word}
    (h : words? none arguments = some words) :
    ((front arguments).map raises).sum = (words.map Word.count).sum := by
  obtain ⟨us, hscan, rfl⟩ := words?_eq_some h
  have hback : (((back arguments).map Word.path).map Word.count).sum = 0 :=
    List.sum_eq_zero_iff_forall_eq_nat.2 (by simp [Word.count])
  rw [List.map_append, List.sum_append, sum_raises_of_scan? hscan, hback, Nat.add_zero]

/-- An option that awaits its value is the last argument. -/
theorem takesNext_of_scan? {arguments : List String} {words : List Word} {o : ValueOption}
    (h : scan? none arguments = some (words, some o)) :
    ∃ option ∈ arguments.getLast?, takesNext option := by
  rcases List.eq_nil_or_concat arguments with rfl | ⟨front, option, rfl⟩
  · cases h
  refine ⟨option, by simp, ?_⟩
  rw [List.concat_eq_append, scan?_append, Option.bind_eq_some_iff] at h
  obtain ⟨⟨us, awaited⟩, -, h⟩ := h
  obtain ⟨⟨vs, awaited'⟩, h, ⟨⟩⟩ := Option.map_eq_some_iff.1 h
  obtain ⟨⟨us', awaited'⟩, hstep, ⟨⟩⟩ := Option.bind_eq_some_iff.1 h
  unfold step? at hstep
  split at hstep <;> cases hstep
  next hk => exact (hasKind_of_kind? hk).takesNext_iff.2 ⟨o, rfl⟩

end WidgetMarkup
