/-
  Reading a command line, word by word.

  Reading holds a value back until the next argument is reached, so that the problems of a
  command line are reported in their order.  Whether a command line is accepted, and with which
  result, does not depend on this.

  * `Reader.take?` takes a word into a reader that holds nothing back.
  * `Reader.Reads` relates a reader to one that has read arguments with some words: it holds
    the last value back, which the words already have.  One argument keeps the relation
    (`reads_argument`), and so do many (`reads_arguments`).
  * `toOption_parseArguments`: a command line is accepted if it consists of words that can be
    taken in, one after the other, and its result is what they lead to.
-/
import WidgetMarkup.Proofs.Words

namespace WidgetMarkup

theorem toOption_bind {ε α β : Type} (x : Except ε α) (f : α → Except ε β) :
    (x >>= f).toOption = x.toOption.bind fun a => (f a).toOption := by
  cases x <;> rfl

namespace Reader

variable {r s : Reader} {o : ValueOption}

/-! ## Values that are held back -/

/-- The reader once the value that it holds back is checked. -/
def settle? (r : Reader) : Option Reader :=
  r.settle.toOption

/-- The reader with an option set, if it is not set before. -/
def set? (r : Reader) (o : ValueOption) (value : String) : Option Reader :=
  (r.setOption o value).toOption

/-- The reader with its verbosity raised `n` times. -/
def raise (r : Reader) (n : Nat) : Reader :=
  { r with verbosity := min maxVerbosity (r.verbosity + n) }

/-- The option whose value is awaited. -/
def awaited (r : Reader) : Option ValueOption :=
  match r.pending with
  | some (.option o none) => some o
  | _ => none

/-- The reader once all that it has read is checked, up to the option that awaits a value. -/
def base? (r : Reader) : Option Reader :=
  match r.awaited with
  | some _ => some { r with pending := none }
  | none => r.settle?

theorem settle?_of_pending (h : r.pending = none) : r.settle? = some r := by
  rw [settle?, settle, h]
  rfl

theorem awaited_of_pending (h : r.pending = none) : r.awaited = none := by
  rw [awaited, h]

theorem settle?_of_awaited (h : r.awaited = some o) : r.settle? = none := by
  unfold awaited at h
  split at h
  next _ h' => rw [settle?, settle, h']; rfl
  · simp at h

theorem base?_of_awaited (h : r.awaited = none) : r.base? = r.settle? := by
  rw [base?, h]

theorem base?_of_pending (h : r.pending = none) : r.base? = some r := by
  rw [base?_of_awaited (awaited_of_pending h), settle?_of_pending h]

theorem set?_format (r : Reader) (value : String) :
    r.set? .format value =
      if r.format.isSome then none
      else (formatNamed? value).map fun format => { r with format := some format } := by
  unfold set? setOption
  dsimp only
  split_ifs
  · rfl
  · cases formatNamed? value <;> rfl

theorem set?_color (r : Reader) (value : String) :
    r.set? .color value =
      if r.color.isSome then none
      else (colorNamed? value).map fun color => { r with color := some color } := by
  unfold set? setOption
  dsimp only
  split_ifs
  · rfl
  · cases colorNamed? value <;> rfl

/-- Setting an option changes the options only. -/
theorem set?_eq_some {value : String} (h : r.set? o value = some s) :
    ∃ format color, s = { r with format, color } := by
  cases o with
  | format =>
    rw [set?_format, Option.ite_none_left_eq_some, Option.map_eq_some_iff] at h
    obtain ⟨-, format, -, rfl⟩ := h
    exact ⟨some format, r.color, rfl⟩
  | color =>
    rw [set?_color, Option.ite_none_left_eq_some, Option.map_eq_some_iff] at h
    obtain ⟨-, color, -, rfl⟩ := h
    exact ⟨r.format, some color, rfl⟩

theorem settle?_input {path : String} (h : r.pending = some (.input path)) :
    r.settle? =
      if path.isEmpty then none else some { r with pending := none, input := some path } := by
  rw [settle?, settle, h]
  dsimp only
  split_ifs <;> rfl

theorem settle?_output {path : String} (h : r.pending = some (.output path)) :
    r.settle? =
      if path.isEmpty then none else some { r with pending := none, output := some path } := by
  rw [settle?, settle, h]
  dsimp only
  split_ifs <;> rfl

theorem settle?_option {value : String} (h : r.pending = some (.option o (some value))) :
    r.settle? = { r with pending := none }.set? o value := by
  rw [settle?, settle, h]
  rfl

/-- A settled reader holds nothing back, and has as many paths as before. -/
theorem settle?_eq_some (h : r.settle? = some s) :
    s.pending = none ∧ s.paths = r.paths ∧ s.pathsOnly = r.pathsOnly := by
  rcases hp : r.pending with _ | path | path | ⟨o, _ | value⟩
  · rw [settle?_of_pending hp] at h
    cases h
    exact ⟨hp, rfl, rfl⟩
  · rw [settle?_input hp, Option.ite_none_left_eq_some] at h
    obtain ⟨-, ⟨⟩⟩ := h
    exact ⟨rfl, rfl, rfl⟩
  · rw [settle?_output hp, Option.ite_none_left_eq_some] at h
    obtain ⟨-, ⟨⟩⟩ := h
    exact ⟨rfl, rfl, rfl⟩
  · rw [settle?_of_awaited (o := o) (by rw [awaited, hp])] at h
    cases h
  · rw [settle?_option hp] at h
    obtain ⟨format, color, rfl⟩ := set?_eq_some h
    exact ⟨rfl, rfl, rfl⟩

/-! ## One argument -/

/-- The reader once it has read an argument of some kind. -/
def accept? (r : Reader) (argument : String) : ArgumentKind → Option Reader
  | .value => (r.readValue argument).toOption
  | .flags count => r.settle?.map (·.raise count)
  | .option o (some value) => r.settle?.bind (·.set? o value)
  | .option o none => r.settle?.map fun s => { s with pending := some (.option o none) }

theorem toOption_raiseVerbosity (r : Reader) :
    r.raiseVerbosity.toOption = r.settle?.map (·.raise 1) := by
  rw [raiseVerbosity, settle?]
  cases r.settle <;> rfl

theorem raise_raise (r : Reader) (m n : Nat) : (r.raise m).raise n = r.raise (m + n) := by
  have h : min maxVerbosity (min maxVerbosity (r.verbosity + m) + n) =
      min maxVerbosity (r.verbosity + (m + n)) := by
    omega
  simp only [raise, h]

theorem toOption_request (r : Reader) (e : UsageError) : (r.request e).toOption = none := by
  rw [request]
  cases r.settle <;> rfl

theorem toOption_readLetters_cons (r : Reader) (c : Char) (cs : List Char) :
    (r.readLetters (c :: cs)).toOption =
      if c = 'v' then r.settle?.bind fun s => ((s.raise 1).readLetters cs).toOption
      else none := by
  by_cases hv : c = 'v'
  · rw [hv, if_pos rfl, readLetters, toOption_bind, toOption_raiseVerbosity, Option.bind_map]
    rfl
  · rw [if_neg hv]
    unfold readLetters
    split
    next h => cases h
    next h => exact absurd (List.cons.inj h).1 hv
    next => exact toOption_request r _
    next => exact toOption_request r _
    next => rfl

/-- Letters are accepted if all of them raise the verbosity. -/
theorem toOption_readLetters (r : Reader) (c : Char) (cs : List Char) :
    (r.readLetters (c :: cs)).toOption =
      if (c :: cs).all (· == 'v') then r.settle?.map (·.raise (c :: cs).length) else none := by
  induction cs generalizing r c with
  | nil =>
    rw [toOption_readLetters_cons]
    by_cases hv : c = 'v'
    · rw [if_pos hv, if_pos (by simp [hv]), Option.map_eq_bind]
      rfl
    · simp [hv]
  | cons d ds ih =>
    rw [toOption_readLetters_cons]
    by_cases hv : c = 'v'
    · rw [if_pos hv]
      rcases hs : r.settle? with _ | s
      · simp
      · have hpending : (s.raise 1).pending = none := (settle?_eq_some hs).1
        rw [Option.bind_some, ih, settle?_of_pending hpending]
        simp [hv, raise_raise, Nat.add_comm]
    · simp [hv]

theorem toOption_readLong (r : Reader) (name : String) (value : Option String)
    (argument : String) :
    (r.readLong name value).toOption = (longKind? name value).bind (r.accept? argument) := by
  have hrequest (e : UsageError) : (readFlag value (r.request e)).toOption = none := by
    rw [readFlag]
    split_ifs
    · rfl
    · exact toOption_request r e
  have hoption (o : ValueOption) :
      (r.readOption o value).toOption = r.accept? argument (.option o value) := by
    rw [readOption, toOption_bind]
    cases value <;> rw [accept?, settle?] <;> cases r.settle <;> rfl
  unfold readLong
  split
  · rw [readFlag, longKind?, if_pos rfl]
    split_ifs
    · rfl
    · exact toOption_raiseVerbosity r
  · exact hrequest _
  · exact hrequest _
  · exact hoption .format
  · exact hoption .color
  next h₁ _ _ h₂ h₃ => rw [longKind?, if_neg h₁, if_neg h₂, if_neg h₃]; rfl

/-- What an argument does to a reader depends on what it is, and on itself if it is a value. -/
theorem toOption_readArgument (h : r.pathsOnly = false) {argument : String}
    (hend : argument ≠ "--") :
    (r.readArgument argument).toOption = (kind? argument).bind (r.accept? argument) := by
  rw [readArgument, h, if_neg Bool.false_ne_true]
  split
  next h => exact absurd (String.toList_inj.1 h) hend
  next cs _ h => rw [kind?_long h]; exact toOption_readLong r _ _ _
  next c cs hc h =>
    rw [kind?_letters h (by simpa using hc), toOption_readLetters]
    split_ifs <;> rfl
  next h => rw [kind?_value h]; rfl

/-! ## One word -/

/-- The reader once it has taken in a word. -/
def take? (r : Reader) : Word → Option Reader
  | .path path =>
    if path.isEmpty then none
    else match r.paths with
      | 0 => some { r with input := some path, paths := 1 }
      | 1 => some { r with output := some path, paths := 2 }
      | _ => none
  | .flags count => some (r.raise count)
  | .setting o value => r.set? o value

/-- The reader once it has taken in one word after the other. -/
def takeAll? (r : Reader) (words : List Word) : Option Reader :=
  words.foldlM take? r

theorem takeAll?_cons (r : Reader) (w : Word) (words : List Word) :
    r.takeAll? (w :: words) = (r.take? w).bind (·.takeAll? words) :=
  rfl

theorem takeAll?_singleton (r : Reader) (w : Word) : r.takeAll? [w] = r.take? w := by
  rw [takeAll?_cons]
  exact Option.bind_fun_some _

theorem takeAll?_append (r : Reader) (us vs : List Word) :
    r.takeAll? (us ++ vs) = (r.takeAll? us).bind (·.takeAll? vs) := by
  simp only [takeAll?, List.foldlM_append]
  rfl

/-- The reader that holds a path back. -/
def hold? (r : Reader) (path : String) : Option Reader :=
  match r.paths with
  | 0 => some { r with pending := some (.input path), paths := 1 }
  | 1 => some { r with pending := some (.output path), paths := 2 }
  | _ => none

theorem toOption_readPath (r : Reader) (path : String) :
    (r.readPath path).toOption = r.settle?.bind (·.hold? path) := by
  rcases hs : r.settle with e | s
  · rw [settle?, hs]
    rcases hp : r.paths with _ | _ | n <;> simp only [readPath, hp, hs] <;> rfl
  · have hs' : r.settle? = some s := by rw [settle?, hs]; rfl
    obtain ⟨-, hpaths, -⟩ := settle?_eq_some hs'
    rw [hs', Option.bind_some, hold?, hpaths]
    rcases hp : r.paths with _ | _ | n <;> simp only [readPath, hp, hs] <;> rfl

/-- A path that is held back is taken in when it is checked. -/
theorem hold?_bind_settle? (h : r.pending = none) (path : String) :
    (r.hold? path).bind settle? = r.take? (.path path) := by
  obtain ⟨⟩ := r
  cases h
  rw [hold?, take?]
  split
  · exact settle?_input rfl
  · exact settle?_output rfl
  · split_ifs <;> rfl

theorem hold?_eq_some {path : String} (h : r.hold? path = some s) :
    s.awaited = none ∧ s.pathsOnly = r.pathsOnly := by
  unfold hold? at h
  split at h
  · cases h; exact ⟨rfl, rfl⟩
  · cases h; exact ⟨rfl, rfl⟩
  · cases h

/-! ## Many arguments -/

/-- Reading arguments takes their words into a reader, up to the option that awaits its value
    behind them. -/
structure Reads (r : Reader) (words : List Word) (awaited : Option ValueOption)
    (read : Option Reader) : Prop where
  base? : read.bind Reader.base? = r.base?.bind (·.takeAll? words)
  awaited : ∀ s ∈ read, s.awaited = awaited ∧ s.pathsOnly = false

namespace Reads

theorem nil (h : r.pathsOnly = false) : Reads r [] r.awaited (some r) where
  base? := (Option.bind_fun_some _).symm
  awaited := by
    rintro s ⟨⟩
    exact ⟨rfl, h⟩

theorem trans {us vs : List Word} {o o' : Option ValueOption} {x : Option Reader}
    {f : Reader → Option Reader} (h : Reads r us o x) (h' : ∀ s ∈ x, Reads s vs o' (f s)) :
    Reads r (us ++ vs) o' (x.bind f) where
  base? := by
    have hf : ∀ s ∈ x, (f s).bind Reader.base? = s.base?.bind (·.takeAll? vs) :=
      fun s hs => (h' s hs).base?
    rw [Option.bind_assoc, Option.bind_congr hf, ← Option.bind_assoc, h.base?,
      Option.bind_assoc]
    simp only [takeAll?_append]
  awaited := by
    intro t ht
    obtain ⟨s, hs, hst⟩ := Option.mem_bind_iff.1 ht
    exact (h' s hs).awaited t hst

/-- Checking what is held back reads nothing. -/
theorem settle (h : r.pathsOnly = false) (hr : r.awaited = none) : Reads r [] none r.settle? where
  base? := by
    have hbase : ∀ s ∈ r.settle?, s.base? = some s :=
      fun s hs => base?_of_pending (settle?_eq_some hs).1
    rw [Option.bind_congr hbase, base?_of_awaited hr]
    rfl
  awaited := by
    intro s hs
    obtain ⟨hpending, -, honly⟩ := settle?_eq_some hs
    exact ⟨awaited_of_pending hpending, honly.trans h⟩

/-- What is read behind a value that is held back is read once that value is checked. -/
theorem of_settle (h : r.pathsOnly = false) (hr : r.awaited = none) {words : List Word}
    {o : Option ValueOption} {f : Reader → Option Reader}
    (hf : ∀ s : Reader, s.pathsOnly = false → s.pending = none → Reads s words o (f s)) :
    Reads r words o (r.settle?.bind f) := by
  refine (Reads.settle h hr).trans fun s hs => ?_
  obtain ⟨hpending, -, honly⟩ := settle?_eq_some hs
  exact hf s (honly.trans h) hpending

theorem path (h : r.pathsOnly = false) (hr : r.pending = none) (path : String) :
    Reads r [.path path] none (r.hold? path) where
  base? := by
    have hbase : ∀ s ∈ r.hold? path, s.base? = s.settle? :=
      fun s hs => base?_of_awaited (hold?_eq_some hs).1
    rw [Option.bind_congr hbase, base?_of_pending hr, Option.bind_some, takeAll?_singleton]
    exact hold?_bind_settle? hr path
  awaited := by
    intro s hs
    obtain ⟨hawaited, honly⟩ := hold?_eq_some hs
    exact ⟨hawaited, honly.trans h⟩

theorem flags (h : r.pathsOnly = false) (hr : r.pending = none) (count : Nat) :
    Reads r [.flags count] none (some (r.raise count)) where
  base? := by
    rw [base?_of_pending hr]
    exact base?_of_pending hr
  awaited := by
    rintro s ⟨⟩
    exact ⟨awaited_of_pending hr, h⟩

theorem setting (h : r.pathsOnly = false) (hr : r.pending = none) (o : ValueOption)
    (value : String) : Reads r [.setting o value] none (r.set? o value) where
  base? := by
    have hbase : ∀ s ∈ r.set? o value, s.base? = some s := by
      intro s hs
      obtain ⟨format, color, rfl⟩ := set?_eq_some hs
      exact base?_of_pending hr
    rw [Option.bind_congr hbase, base?_of_pending hr, Option.bind_some, takeAll?_singleton]
    exact Option.bind_fun_some _
  awaited := by
    intro s hs
    obtain ⟨format, color, rfl⟩ := set?_eq_some hs
    exact ⟨awaited_of_pending hr, h⟩

/-- An option that awaits its value is no word yet. -/
theorem option (h : r.pathsOnly = false) (hr : r.pending = none) (o : ValueOption) :
    Reads r [] (some o) (some { r with pending := some (.option o none) }) where
  base? := by
    rw [base?_of_pending hr]
    obtain ⟨⟩ := r
    cases hr
    rfl
  awaited := by
    rintro s ⟨⟩
    exact ⟨rfl, h⟩

/-- The value of an option makes it a word. -/
theorem value (h : r.pathsOnly = false) (hr : r.awaited = some o) (value : String) :
    Reads r [.setting o value] none
      (some { r with pending := some (.option o (some value)) }) where
  base? := by
    have hbase : r.base? = some { r with pending := none } := by rw [Reader.base?, hr]
    rw [Option.bind_some, base?_of_awaited rfl, settle?_option rfl, hbase, Option.bind_some,
      takeAll?_singleton, take?]
  awaited := by
    rintro s ⟨⟩
    exact ⟨rfl, h⟩

end Reads

theorem readValue_of_awaited (h : r.awaited = some o) (value : String) :
    r.readValue value = .ok { r with pending := some (.option o (some value)) } := by
  unfold awaited at h
  split at h
  next h' => cases h; rw [readValue, h']
  · cases h

theorem readValue_of_not_awaited (h : r.awaited = none) (value : String) :
    r.readValue value = r.readPath value := by
  unfold awaited at h
  split at h
  · cases h
  next h' =>
    unfold readValue
    split
    next h'' => exact absurd h'' (h' _)
    · rfl

/-- An argument that completes no words in its place is not accepted. -/
theorem toOption_readArgument_eq_none (h : r.pathsOnly = false) {argument : String}
    (hend : argument ≠ "--") (hstep : step? r.awaited argument = none) :
    (r.readArgument argument).toOption = none := by
  rw [toOption_readArgument h hend]
  rcases hk : kind? argument with _ | kind
  · rfl
  rcases hr : r.awaited with _ | o
  · unfold step? at hstep
    rw [hr, hk] at hstep
    rcases kind with _ | _ | ⟨_, _ | _⟩ <;> cases hstep
  · -- only a value may follow an option that awaits one
    unfold step? at hstep
    rw [hr, hk] at hstep
    have hsettle : r.settle? = none := settle?_of_awaited hr
    rcases kind with _ | _ | ⟨_, _ | _⟩
    · cases hstep
    all_goals simp [accept?, hsettle]

/-- **One argument** takes its words into the reader. -/
theorem reads_argument (h : r.pathsOnly = false) {argument : String} (hend : argument ≠ "--")
    {words : List Word} {awaited : Option ValueOption}
    (hstep : step? r.awaited argument = some (words, awaited)) :
    Reads r words awaited (r.readArgument argument).toOption := by
  rw [toOption_readArgument h hend]
  unfold step? at hstep
  split at hstep <;> cases hstep
  next hr hk =>
    rw [hk, Option.bind_some, accept?, readValue_of_not_awaited hr, toOption_readPath]
    exact .of_settle h hr fun s hs hs' => .path hs hs' _
  next o hr hk =>
    rw [hk, Option.bind_some, accept?, readValue_of_awaited hr]
    exact .value h hr argument
  next hr hk =>
    rw [hk, Option.bind_some, accept?, Option.map_eq_bind]
    exact .of_settle h hr fun s hs hs' => .flags hs hs' _
  next hr hk =>
    rw [hk]
    exact .of_settle h hr fun s hs hs' => .setting hs hs' _ _
  next hr hk =>
    rw [hk, Option.bind_some, accept?, Option.map_eq_bind]
    exact .of_settle h hr fun s hs hs' => .option hs hs' _

/-- The reader once it has read arguments one after the other. -/
def read? (r : Reader) (arguments : List String) : Option Reader :=
  arguments.foldlM (fun r argument => (r.readArgument argument).toOption) r

theorem read?_cons (r : Reader) (argument : String) (arguments : List String) :
    r.read? (argument :: arguments) =
      (r.readArgument argument).toOption.bind (·.read? arguments) :=
  rfl

/-- **Many arguments** take their words into the reader. -/
theorem reads_arguments {arguments : List String} (hend : "--" ∉ arguments)
    (h : r.pathsOnly = false) {words : List Word} {awaited : Option ValueOption}
    (hscan : scan? r.awaited arguments = some (words, awaited)) :
    Reads r words awaited (r.read? arguments) := by
  induction arguments generalizing r words with
  | nil =>
    cases hscan
    exact .nil h
  | cons argument arguments ih =>
    obtain ⟨hne, hend⟩ := List.ne_and_not_mem_of_not_mem_cons hend
    rw [scan?, Option.bind_eq_some_iff] at hscan
    obtain ⟨⟨us, o⟩, hstep, hscan⟩ := hscan
    obtain ⟨⟨vs, o'⟩, hscan, ⟨⟩⟩ := Option.map_eq_some_iff.1 hscan
    have hargument := reads_argument h (Ne.symm hne) hstep
    rw [read?_cons]
    refine hargument.trans fun s hs => ?_
    obtain ⟨hawaited, honly⟩ := hargument.awaited s hs
    exact ih hend honly (hawaited ▸ hscan)

/-- Arguments that do not consist of words are not accepted. -/
theorem read?_eq_none {arguments : List String} (hend : "--" ∉ arguments)
    (h : r.pathsOnly = false) (hscan : scan? r.awaited arguments = none) :
    r.read? arguments = none := by
  induction arguments generalizing r with
  | nil => cases hscan
  | cons argument arguments ih =>
    obtain ⟨hne, hend⟩ := List.ne_and_not_mem_of_not_mem_cons hend
    rw [read?_cons]
    rcases hstep : step? r.awaited argument with _ | ⟨us, o⟩
    · rw [toOption_readArgument_eq_none h (Ne.symm hne) hstep]
      rfl
    · rw [scan?, hstep, Option.bind_some, Option.map_eq_none_iff] at hscan
      rw [Option.bind_eq_none_iff]
      intro s hs
      obtain ⟨hawaited, honly⟩ := (reads_argument h (Ne.symm hne) hstep).awaited s hs
      exact ih hend honly (hawaited ▸ hscan)

/-! ## Changes that words do not depend on -/

/-- The reader with another verbosity, and another view of whether only paths may follow. -/
def adjust (r : Reader) (f : Nat → Nat) (g : Bool → Bool) : Reader :=
  { r with verbosity := f r.verbosity, pathsOnly := g r.pathsOnly }

section

variable (f : Nat → Nat) (g : Bool → Bool)

theorem set?_adjust (r : Reader) (o : ValueOption) (value : String) :
    (r.adjust f g).set? o value = (r.set? o value).map (adjust · f g) := by
  cases o with
  | format =>
    rw [set?_format, set?_format, apply_ite (Option.map (adjust · f g)), Option.map_map]
    rfl
  | color =>
    rw [set?_color, set?_color, apply_ite (Option.map (adjust · f g)), Option.map_map]
    rfl

variable {f}

/-- Words are taken in the same way if the verbosity is changed alike before and after. -/
theorem take?_adjust (hf : ∀ m n, f (min maxVerbosity (m + n)) = min maxVerbosity (f m + n))
    (r : Reader) (w : Word) : (r.adjust f g).take? w = (r.take? w).map (adjust · f g) := by
  cases w with
  | path path =>
    have hpaths : (r.adjust f g).paths = r.paths := rfl
    rw [take?, take?, apply_ite (Option.map (adjust · f g)), hpaths]
    rcases r.paths with _ | _ | n <;> rfl
  | flags count =>
    simp only [take?, raise, adjust, Option.map_some, hf]
  | setting o value => exact set?_adjust f g r o value

end

/-! ## The end of the options -/

/-- The reader behind the end of the options. -/
def endOptions (r : Reader) : Reader :=
  r.adjust id fun _ => true

theorem takeAll?_endOptions (r : Reader) (words : List Word) :
    r.endOptions.takeAll? words = (r.takeAll? words).map endOptions := by
  induction words generalizing r with
  | nil => rfl
  | cons w words ih =>
    have htake : r.endOptions.take? w = (r.take? w).map endOptions :=
      take?_adjust _ (fun _ _ => rfl) r w
    rw [takeAll?_cons, takeAll?_cons, htake, Option.bind_map, Option.map_bind]
    exact Option.bind_congr fun s _ => ih s

theorem settle?_endOptions (r : Reader) : r.endOptions.settle? = r.settle?.map endOptions := by
  rcases hp : r.pending with _ | path | path | ⟨o, _ | value⟩
  · rw [settle?_of_pending hp]
    exact settle?_of_pending hp
  · rw [settle?_input hp, settle?_input (r := r.endOptions) hp, apply_ite (Option.map endOptions)]
    rfl
  · rw [settle?_output hp, settle?_output (r := r.endOptions) hp, apply_ite (Option.map endOptions)]
    rfl
  · have ho : r.awaited = some o := by rw [awaited, hp]
    rw [settle?_of_awaited ho]
    exact settle?_of_awaited ho
  · rw [settle?_option hp, settle?_option (r := r.endOptions) hp]
    exact set?_adjust id (fun _ => true) { r with pending := none } o value

/-- Behind the end of the options, each argument is a path. -/
theorem toOption_readAll_of_pathsOnly (h : r.pathsOnly = true) (paths : List String) :
    (r.readAll paths).toOption = r.settle?.bind (·.takeAll? (paths.map .path)) := by
  induction paths generalizing r with
  | nil => exact (Option.bind_fun_some _).symm
  | cons path paths ih =>
    rw [readAll, toOption_bind, readArgument, if_pos h, toOption_readPath, Option.bind_assoc]
    refine Option.bind_congr fun s hs => ?_
    obtain ⟨hpending, -, honly⟩ := settle?_eq_some hs
    have hih : ∀ t ∈ s.hold? path,
        (t.readAll paths).toOption = t.settle?.bind (·.takeAll? (paths.map .path)) :=
      fun t ht => ih ((hold?_eq_some ht).2.trans (honly.trans h))
    rw [Option.bind_congr hih, ← Option.bind_assoc, hold?_bind_settle? hpending]
    rfl

/-! ## Whole command lines -/

theorem toOption_readAll_append (r : Reader) (xs ys : List String) :
    (r.readAll (xs ++ ys)).toOption = (r.read? xs).bind fun s => (s.readAll ys).toOption := by
  induction xs generalizing r with
  | nil => rfl
  | cons x xs ih =>
    rw [List.cons_append, readAll, toOption_bind, read?_cons, Option.bind_assoc]
    exact Option.bind_congr fun s _ => ih s

theorem Reads.bind_settle? {words : List Word} {awaited : Option ValueOption}
    {read : Option Reader} (h : Reads r words awaited read) :
    read.bind settle? = if awaited.isNone then r.base?.bind (·.takeAll? words) else none := by
  cases awaited with
  | none =>
    have hbase : ∀ s ∈ read, s.settle? = s.base? :=
      fun s hs => (base?_of_awaited (h.awaited s hs).1).symm
    rw [Option.bind_congr hbase, h.base?]
    rfl
  | some o =>
    have hnone : ∀ s ∈ read, s.settle? = none := fun s hs => settle?_of_awaited (h.awaited s hs).1
    exact Option.bind_eq_none_iff.2 hnone

/-- The end of the options, with what stands behind it, up to whether it has been reached. -/
theorem toOption_readAll_rest (h : r.pathsOnly = false) {rest : List String}
    (hrest : ∀ argument ∈ rest.head?, argument = "--") :
    (r.readAll rest).toOption.map endOptions =
      (r.settle?.bind (·.takeAll? (rest.tail.map .path))).map endOptions := by
  cases rest with
  | nil => exact congrArg _ (Option.bind_fun_some _).symm
  | cons argument paths =>
    cases hrest argument rfl
    have hread : r.readArgument "--" = .ok r.endOptions := by
      rw [readArgument, h]
      rfl
    rw [readAll, hread]
    change (r.endOptions.readAll paths).toOption.map endOptions = _
    rw [toOption_readAll_of_pathsOnly rfl, settle?_endOptions]
    rcases r.settle? with _ | s
    · rfl
    · rw [Option.map_some, Option.bind_some, takeAll?_endOptions, Option.map_map]
      rfl

/-- A command line is read as its words are taken in, up to whether the end of the options has
    been reached. -/
theorem toOption_readAll (h : r.pathsOnly = false) (hr : r.pending = none)
    (arguments : List String) :
    (r.readAll arguments).toOption.map endOptions =
      ((words? none arguments).bind r.takeAll?).map endOptions := by
  have hawaited : r.awaited = none := awaited_of_pending hr
  have hread : (r.readAll arguments).toOption =
      (r.read? (front arguments)).bind fun s => (s.readAll (rest arguments)).toOption := by
    rw [← toOption_readAll_append, front_append_rest]
  rw [words?, hread, ← hawaited]
  -- without words nothing is read up to the end of the options, so that what follows is not reached
  rcases hscan : scan? r.awaited (front arguments) with _ | ⟨us, o⟩
  · rw [read?_eq_none (not_mem_front arguments) h hscan]
    rfl
  have hreads := reads_arguments (not_mem_front arguments) h hscan
  have hrest : ∀ s ∈ r.read? (front arguments),
      (s.readAll (rest arguments)).toOption.map endOptions =
        (s.settle?.bind (·.takeAll? ((back arguments).map .path))).map endOptions :=
    fun s hs => toOption_readAll_rest (hreads.awaited s hs).2 (head?_rest arguments)
  calc
    _ = (r.read? (front arguments)).bind fun s =>
          (s.settle?.bind (·.takeAll? ((back arguments).map .path))).map endOptions := by
      rw [Option.map_bind]
      exact Option.bind_congr hrest
    _ = (((r.read? (front arguments)).bind settle?).bind
          (·.takeAll? ((back arguments).map .path))).map endOptions := by
      rw [Option.bind_assoc, Option.map_bind]
      rfl
    _ = _ := by
      rw [hreads.bind_settle?, base?_of_pending hr]
      cases o with
      | none => simp [takeAll?_append]
      | some o => rfl

end Reader

/-- The result that a reader leads to. -/
def Reader.finish? (r : Reader) (env : Environment) : Option Arguments :=
  (do
    let input ← pathOr r.input env.input
    let output ← pathOr r.output env.output
    match input, output with
    | some input, some output =>
      .ok {
        input, output
        format := r.format.getD .human
        color := r.color.getD .auto
        verbosity := r.verbosity }
    | _, _ => .error .missingPath : Except UsageError Arguments).toOption

/-- **A command line is what its words lead to.** -/
theorem toOption_parseArguments (env : Environment) (arguments : List String) :
    (parseArguments env arguments).toOption =
      (words? none arguments).bind fun words =>
        (({} : Reader).takeAll? words).bind (·.finish? env) := by
  -- the result does not show whether the end of the options has been reached
  have hend (x : Option Reader) :
      x.bind (·.finish? env) = (x.map Reader.endOptions).bind (·.finish? env) := by
    cases x <;> rfl
  rw [parseArguments, toOption_bind, ← Option.bind_assoc, hend ((words? none arguments).bind _),
    ← Reader.toOption_readAll rfl rfl]
  exact hend _

end WidgetMarkup
