/-
  Accepted command lines.

  * `Reader.Holds` says what a reader holds of the words that it has taken in: at most two
    paths, none of them empty, and the verbosity.  One word keeps this (`Holds.take`), and so do
    many (`Holds.takeAll`).
  * `Reader.take?_comm`: a word that is no path may be taken in before or after any other one,
    so it may stand anywhere among the words (`Reader.takeAll?_move`).
  * `parseArguments_usable`: an accepted command line has usable paths, and flags and options
    that are complete in one argument may be moved in it.
-/
import WidgetMarkup.Proofs.CommandLine

namespace WidgetMarkup

namespace Reader

variable {r s : Reader}

/-! ## What a reader holds -/

/-- A reader holds the paths that it has taken in, and how often the verbosity was raised. -/
structure Holds (paths : List String) (raised : Nat) (r : Reader) : Prop where
  input : r.input = paths[0]?
  output : r.output = paths[1]?
  count : r.paths = paths.length
  count_le : paths.length ≤ 2
  nonempty : ∀ path ∈ paths, path ≠ ""
  verbosity : r.verbosity = min maxVerbosity raised

theorem take?_path_eq_some {path : String} (h : r.take? (.path path) = some s) :
    path ≠ "" ∧
      (r.paths = 0 ∧ s = { r with input := some path, paths := 1 } ∨
        r.paths = 1 ∧ s = { r with output := some path, paths := 2 }) := by
  rw [take?, Option.ite_none_left_eq_some] at h
  obtain ⟨hempty, h⟩ := h
  refine ⟨fun hpath => hempty (by simp [hpath]), ?_⟩
  split at h <;> cases h
  next h0 => exact .inl ⟨h0, rfl⟩
  next h1 => exact .inr ⟨h1, rfl⟩

namespace Holds

variable {paths : List String} {raised : Nat}

theorem nil : Holds [] 0 {} where
  input := rfl
  output := rfl
  count := rfl
  count_le := Nat.zero_le 2
  nonempty := by simp
  verbosity := rfl

theorem take {w : Word} (h : Holds paths raised r) (hs : r.take? w = some s) :
    Holds (paths ++ w.path?.toList) (raised + w.count) s := by
  obtain ⟨hinput, houtput, hcount, hle, hnonempty, hverbosity⟩ := h
  cases w with
  | path path =>
    obtain ⟨hpath, ⟨hr, rfl⟩ | ⟨hr, rfl⟩⟩ := take?_path_eq_some hs
    · obtain rfl : paths = [] := List.length_eq_zero_iff.1 (hcount ▸ hr)
      exact ⟨rfl, houtput, rfl, by simp [Word.path?], by simpa [Word.path?] using hpath,
        hverbosity⟩
    · obtain ⟨q, rfl⟩ := List.length_eq_one_iff.1 (hcount ▸ hr)
      exact ⟨hinput, rfl, rfl, by simp [Word.path?], by simp_all [Word.path?], hverbosity⟩
  | flags count =>
    cases hs
    have hraise : (r.raise count).verbosity = min maxVerbosity (raised + count) := by
      simp only [raise]
      omega
    change Holds (paths ++ []) (raised + count) _
    rw [List.append_nil]
    exact ⟨hinput, houtput, hcount, hle, hnonempty, hraise⟩
  | setting o value =>
    obtain ⟨format, color, rfl⟩ := set?_eq_some hs
    change Holds (paths ++ []) raised _
    rw [List.append_nil]
    exact ⟨hinput, houtput, hcount, hle, hnonempty, hverbosity⟩

theorem takeAll {words : List Word} (h : Holds paths raised r) (hs : r.takeAll? words = some s) :
    Holds (paths ++ words.filterMap Word.path?) (raised + (words.map Word.count).sum) s := by
  induction words generalizing paths raised r with
  | nil =>
    cases hs
    simpa using h
  | cons w words ih =>
    rw [takeAll?_cons, Option.bind_eq_some_iff] at hs
    obtain ⟨t, ht, hs⟩ := hs
    have hpaths : (w :: words).filterMap Word.path? =
        w.path?.toList ++ words.filterMap Word.path? := by
      cases w <;> rfl
    rw [hpaths, ← List.append_assoc, List.map_cons, List.sum_cons, ← Nat.add_assoc]
    exact ih (h.take ht) hs

end Holds

/-! ## The order of words -/

theorem take?_raise (r : Reader) (count : Nat) (w : Word) :
    (r.raise count).take? w = (r.take? w).map (·.raise count) :=
  take?_adjust (f := fun verbosity => min maxVerbosity (verbosity + count)) id
    (fun m n => by omega) r w

/-- An option is set once only. -/
theorem set?_bind_set?_self (r : Reader) (o : ValueOption) (value value' : String) :
    (r.set? o value).bind (·.set? o value') = none := by
  cases o with
  | format => cases h : formatNamed? value <;> simp [set?_format, h]
  | color => cases h : colorNamed? value <;> simp [set?_color, h]

theorem set?_comm (r : Reader) (o o' : ValueOption) (value value' : String) :
    (r.set? o value).bind (·.set? o' value') = (r.set? o' value').bind (·.set? o value) := by
  -- each option has a field of its own
  have hcomm (format color : String) :
      (r.set? .format format).bind (·.set? .color color) =
        (r.set? .color color).bind (·.set? .format format) := by
    by_cases hf : r.format.isSome <;> by_cases hc : r.color.isSome <;>
      cases h : formatNamed? format <;> cases h' : colorNamed? color <;>
      simp [set?_format, set?_color, hf, hc, h, h']
  cases o <;> cases o'
  · rw [set?_bind_set?_self, set?_bind_set?_self]
  · exact hcomm value value'
  · exact (hcomm value' value).symm
  · rw [set?_bind_set?_self, set?_bind_set?_self]

theorem set?_take?_comm (r : Reader) (o : ValueOption) (value path : String) :
    (r.set? o value).bind (·.take? (.path path)) =
      (r.take? (.path path)).bind (·.set? o value) := by
  by_cases hpath : path.isEmpty
  · simp [take?, hpath]
  cases o with
  | format =>
    by_cases hf : r.format.isSome <;> cases h : formatNamed? value <;>
      rcases hp : r.paths with _ | _ | n <;> simp [set?_format, take?, hpath, hf, h, hp]
  | color =>
    by_cases hc : r.color.isSome <;> cases h : colorNamed? value <;>
      rcases hp : r.paths with _ | _ | n <;> simp [set?_color, take?, hpath, hc, h, hp]

/-- **A word that is no path may be taken in before or after another one**; if one of the two is
    refused, so it is in the other order. -/
theorem take?_comm (r : Reader) {w : Word} (hw : w.path? = none) (w' : Word) :
    (r.take? w).bind (·.take? w') = (r.take? w').bind (·.take? w) := by
  cases w with
  | path => cases hw
  | flags count =>
    exact (take?_raise r count w').trans Option.map_eq_bind
  | setting o value =>
    cases w' with
    | path path => exact set?_take?_comm r o value path
    | flags count => exact Option.map_eq_bind.symm.trans (take?_raise r count _).symm
    | setting o' value' => exact set?_comm r o o' value value'

/-- A word that is no path may as well come first. -/
theorem takeAll?_move (r : Reader) {w : Word} (hw : w.path? = none) (us vs : List Word) :
    r.takeAll? (us ++ w :: vs) = r.takeAll? (w :: (us ++ vs)) := by
  induction us generalizing r with
  | nil => rfl
  | cons u us ih =>
    calc
      r.takeAll? (u :: us ++ w :: vs) = (r.take? u).bind (·.takeAll? (us ++ w :: vs)) := rfl
      _ = (r.take? u).bind (·.takeAll? (w :: (us ++ vs))) := Option.bind_congr fun s _ => ih s
      _ = ((r.take? u).bind (·.take? w)).bind (·.takeAll? (us ++ vs)) := by
        rw [Option.bind_assoc]
        rfl
      _ = ((r.take? w).bind (·.take? u)).bind (·.takeAll? (us ++ vs)) := by
        rw [take?_comm r hw u]
      _ = r.takeAll? (w :: (u :: us ++ vs)) := by
        rw [Option.bind_assoc]
        rfl

/-! ## Results -/

theorem pathOr_eq_ok {given fallback : Option String} {path : String}
    (hgiven : ∀ p ∈ given, p ≠ "") (h : pathOr given fallback = .ok (some path)) :
    given.or fallback = some path ∧ path ≠ "" := by
  unfold pathOr at h
  split at h
  · cases h
    exact ⟨rfl, hgiven path rfl⟩
  · split_ifs at h with hempty
    cases h
    refine ⟨rfl, fun hpath => hempty ?_⟩
    simp [hpath]
  · cases h

/-- A result has the paths that were given, or those of the environment. -/
theorem Holds.finish? {paths : List String} {raised : Nat} {env : Environment} {a : Arguments}
    (h : Holds paths raised r) (hfinish : r.finish? env = some a) :
    (paths[0]?.or env.input = some a.input ∧ a.input ≠ "") ∧
      (paths[1]?.or env.output = some a.output ∧ a.output ≠ "") ∧
      a.verbosity = min maxVerbosity raised := by
  have hnonempty (i : Nat) : ∀ p ∈ paths[i]?, p ≠ "" :=
    fun p hp => h.nonempty p (List.mem_of_getElem? hp)
  unfold Reader.finish? at hfinish
  rw [h.input, h.output, h.verbosity] at hfinish
  rcases hinput : pathOr paths[0]? env.input with _ | _ | input <;>
    rcases houtput : pathOr paths[1]? env.output with _ | _ | output <;>
    rw [hinput, houtput] at hfinish <;> cases hfinish
  exact ⟨pathOr_eq_ok (hnonempty 0) hinput, pathOr_eq_ok (hnonempty 1) houtput, rfl⟩

end Reader

/-! ## Moving options -/

/-- The argument is a word by itself, which is no path, and not the value of an option. -/
structure IsWord (argument : String) (w : Word) : Prop where
  no_path : w.path? = none
  alone : step? none argument = some ([w], none)
  no_value : ∀ o, step? (some o) argument = none

theorem HasKind.isWord_flags {argument : String} {count : Nat}
    (h : HasKind argument (.flags count)) : IsWord argument (.flags count) where
  no_path := rfl
  alone := by simp [step?, kind?_of_hasKind h]
  no_value := by simp [step?, kind?_of_hasKind h]

theorem HasKind.isWord_setting {argument value : String} {o : ValueOption}
    (h : HasKind argument (.option o (some value))) : IsWord argument (.setting o value) where
  no_path := rfl
  alone := by simp [step?, kind?_of_hasKind h]
  no_value := by simp [step?, kind?_of_hasKind h]

/-- The flags and options that are complete in one argument. -/
def IsMovable (argument : String) : Prop :=
  (∃ n, argument = String.ofList ('-' :: List.replicate (n + 1) 'v')) ∨
    argument = "--verbosity" ∨
    ∃ value, argument = "--color=" ++ value ∨ argument = "--diagnostic-format=" ++ value

theorem IsMovable.exists_isWord {argument : String} (h : IsMovable argument) :
    ∃ w, IsWord argument w := by
  obtain ⟨n, rfl⟩ | rfl | ⟨value, rfl | rfl⟩ := h
  · exact ⟨_, (HasKind.letters n).isWord_flags⟩
  · exact ⟨_, HasKind.verbosity.isWord_flags⟩
  · exact ⟨_, (HasKind.setting .color value).isWord_setting⟩
  · exact ⟨_, (HasKind.setting .format value).isWord_setting⟩

namespace IsWord

variable {before after : List String} {argument : String} {w : Word} {words : List Word}

theorem words?_cons (h : IsWord argument w) (awaited : Option ValueOption)
    (after : List String) :
    words? awaited (argument :: after) =
      if awaited.isNone then (words? none after).map (w :: ·) else none := by
  have hend : "--" ∉ [argument] := by
    intro hmem
    obtain rfl := List.mem_singleton.1 hmem
    cases h.alone
  rw [← List.singleton_append, words?_append awaited hend]
  cases awaited with
  | none => simp [scan?, h.alone]
  | some o => simp [scan?, h.no_value]

/-- Leaving out an argument that is a word leaves out the word. -/
theorem words?_remove (h : IsWord argument w) (hbefore : "--" ∉ before)
    (hwords : words? none (before ++ argument :: after) = some words) :
    ∃ us vs, words = us ++ w :: vs ∧ words? none (before ++ after) = some (us ++ vs) := by
  obtain ⟨us, awaited, ws, hscan, hws, rfl⟩ := words?_append_eq_some hbefore hwords
  rw [h.words?_cons, Option.ite_none_right_eq_some, Option.isNone_iff_eq_none] at hws
  obtain ⟨rfl, hws⟩ := hws
  obtain ⟨vs, hvs, rfl⟩ := Option.map_eq_some_iff.1 hws
  refine ⟨us, vs, rfl, ?_⟩
  rw [words?_append_of_scan? hbefore hscan, hvs]
  rfl

/-- Putting in an argument that is a word puts in the word, unless the option in front of it
    awaits its value. -/
theorem words?_insert (h : IsWord argument w) (hbefore : "--" ∉ before)
    (hlast : ∀ option ∈ before.getLast?, takesNext option = false)
    (hwords : words? none (before ++ after) = some words) :
    ∃ us vs, words = us ++ vs ∧
      words? none (before ++ argument :: after) = some (us ++ w :: vs) := by
  obtain ⟨us, awaited, vs, hscan, hvs, rfl⟩ := words?_append_eq_some hbefore hwords
  cases awaited with
  | none =>
    refine ⟨us, vs, rfl, ?_⟩
    rw [words?_append_of_scan? hbefore hscan, h.words?_cons, hvs]
    rfl
  | some o =>
    obtain ⟨option, hoption, hnext⟩ := takesNext_of_scan? hscan
    exact absurd hnext (by simp [hlast option hoption])

end IsWord

/-! ## Accepted command lines -/

section

variable {env : Environment} {arguments : List String} {a : Arguments}

theorem parseArguments_eq_ok_iff :
    parseArguments env arguments = .ok a ↔
      ∃ words, words? none arguments = some words ∧
        ∃ r, ({} : Reader).takeAll? words = some r ∧ r.finish? env = some a := by
  have hiff : parseArguments env arguments = .ok a ↔
      (parseArguments env arguments).toOption = some a := by
    cases parseArguments env arguments <;> simp [Except.toOption]
  simp only [hiff, toOption_parseArguments, Option.bind_eq_some_iff]

/-- Moving a flag or option that is complete in one argument does not change the result. -/
theorem parseArguments_move {before after before' after' : List String} {argument : String}
    (h : parseArguments env (before ++ argument :: after) = .ok a) (hmovable : IsMovable argument)
    (hbefore : "--" ∉ before) (hmoved : before ++ after = before' ++ after')
    (hbefore' : "--" ∉ before') (hlast : ∀ option ∈ before'.getLast?, takesNext option = false) :
    parseArguments env (before' ++ argument :: after') = .ok a := by
  obtain ⟨w, hw⟩ := hmovable.exists_isWord
  obtain ⟨words, hwords, r, hr, hfinish⟩ := parseArguments_eq_ok_iff.1 h
  obtain ⟨us, vs, rfl, hrest⟩ := hw.words?_remove hbefore hwords
  rw [hmoved] at hrest
  obtain ⟨us', vs', hsame, hwords'⟩ := hw.words?_insert hbefore' hlast hrest
  refine parseArguments_eq_ok_iff.2 ⟨_, hwords', r, ?_, hfinish⟩
  rw [Reader.takeAll?_move _ hw.no_path, ← hsame, ← Reader.takeAll?_move _ hw.no_path, hr]

end

/-- **Accepted command lines carry usable paths, wherever the options stand.**  Neither path is
    empty; they are the positional arguments, of which there are at most two, or come from the
    environment.  The verbosity is the number of flags in front of the end of the options, up to
    255.  A flag or option that is complete in one argument may be moved to any place in front
    of the end of the options, except behind an option that takes the next argument. -/
theorem parseArguments_usable {env : Environment} {arguments : List String} {a : Arguments}
    (h : parseArguments env arguments = .ok a) :
    a.input ≠ "" ∧ a.output ≠ "" ∧
      (positionals arguments).length ≤ 2 ∧
      (positionals arguments)[0]?.or env.input = some a.input ∧
      (positionals arguments)[1]?.or env.output = some a.output ∧
      a.verbosity = min 255 ((front arguments).map raises).sum ∧
      ∀ before argument after before' after',
        arguments = before ++ argument :: after → IsMovable argument → "--" ∉ before →
        before ++ after = before' ++ after' → "--" ∉ before' →
        (∀ option ∈ before'.getLast?, takesNext option = false) →
        parseArguments env (before' ++ argument :: after') = .ok a := by
  obtain ⟨words, hwords, r, hr, hfinish⟩ := parseArguments_eq_ok_iff.1 h
  have hholds := Reader.Holds.nil.takeAll hr
  rw [List.nil_append, Nat.zero_add, ← positionals_of_words? hwords,
    ← sum_raises_of_words? hwords] at hholds
  obtain ⟨⟨hinput, hinput'⟩, ⟨houtput, houtput'⟩, hverbosity⟩ := hholds.finish? hfinish
  refine ⟨hinput', houtput', hholds.count_le, hinput, houtput, hverbosity, ?_⟩
  rintro before argument after before' after' rfl hmovable hbefore hmoved hbefore' hlast
  exact parseArguments_move h hmovable hbefore hmoved hbefore' hlast

/-- A command line whose only path has the form of a flag. -/
def dashed : List String :=
  ["-vv", "--diagnostic-format", "short", "--color=never", "--", "-v"]

/-- What the command line leads to if the output is `out` in the environment. -/
def dashedArguments : Arguments where
  input := "-v"
  output := "out"
  format := .short
  color := .never
  verbosity := 2

/-- The paths and the verbosity, and the same with an option moved to the front. -/
theorem parseArguments_usable_dashed :
    parseArguments { output := some "out" } dashed = .ok dashedArguments ∧
      (positionals dashed)[0]?.or none = some "-v" ∧
      (positionals dashed)[1]?.or (some "out") = some "out" ∧
      2 = min 255 ((front dashed).map raises).sum ∧
      parseArguments { output := some "out" }
          ["--color=never", "-vv", "--diagnostic-format", "short", "--", "-v"] =
        .ok dashedArguments := by
  have h : parseArguments { output := some "out" } dashed = .ok dashedArguments := rfl
  obtain ⟨-, -, -, hinput, houtput, hverbosity, hmove⟩ := parseArguments_usable h
  have hmovable : IsMovable "--color=never" := .inr (.inr ⟨"never", .inl rfl⟩)
  exact ⟨h, hinput, houtput, hverbosity,
    hmove ["-vv", "--diagnostic-format", "short"] "--color=never" ["--", "-v"]
      [] ["-vv", "--diagnostic-format", "short", "--", "-v"] rfl hmovable (by decide) rfl
      (by decide) (by simp)⟩

end WidgetMarkup
