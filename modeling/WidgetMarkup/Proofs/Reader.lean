/-
  A reader of S-expressions, and texts that it reads piece by piece.

  `SExpr.read?` takes a whole text apart into expressions.  Blanks separate words, a semicolon
  starts a comment that ends with its line, a quote starts a string that ends with the
  next quote, an opening brace starts a group that ends with its matching brace, round
  brackets hold lists and square brackets hold vectors.  The reader takes one character
  at a time (`step`) and keeps a stack of finished expressions and open brackets.

  * `Reads s es`: whatever has been read before, the text `s` adds the expressions `es`
    and leaves at most a word open; `Closes s es` leaves none open.
  * `Reads.append`, `closes_brackets` and the lemmas around them: how the pieces of a
    text are put together.
  * `reads_of_read?`: a text that reads as `es` by itself and does not end in a comment
    reads as `es` wherever it stands.
-/
import Mathlib.Data.List.Induction
import Mathlib.Tactic.SplitIfs
import WidgetMarkup.Text.Blank

namespace WidgetMarkup.Yuck

/-! ## Expressions -/

/-- An expression of Yuck source text. -/
inductive SExpr where
  | atom (word : String)
  /-- The content of a string, without its quotes. -/
  | str (content : String)
  /-- A group in braces, braces included. -/
  | braces (source : String)
  | list (exprs : List SExpr)
  | vector (exprs : List SExpr)

/-- The brackets that hold further expressions. -/
inductive Bracket where
  | round
  | square
deriving DecidableEq

namespace Bracket

def opening : Bracket → String
  | round => "("
  | square => "["

def closing : Bracket → String
  | round => ")"
  | square => "]"

/-- The expression of what stands between two brackets. -/
def wrap : Bracket → List SExpr → SExpr
  | round => .list
  | square => .vector

end Bracket

/-- The characters other than blanks that end a word. -/
def delimiters : List Char :=
  ['"', ';', '(', ')', '[', ']', '\x7b', '\x7d']

/-- The characters that words are made of. -/
def isWordChar (c : Char) : Bool :=
  !isBlank c && !delimiters.contains c

/-! ## The reader -/

/-- An expression that is complete or a bracket that waits for its partner. -/
inductive Entry where
  | expr (e : SExpr)
  | opened (b : Bracket)

/-- Adds expressions on top of a stack, the last one uppermost. -/
def push (st : List Entry) (es : List SExpr) : List Entry :=
  (es.map .expr).reverse ++ st

/-- Where the reader stands; an unfinished token comes with what has been read of it. -/
inductive Mode where
  | between
  | word (cs : List Char)
  | string (cs : List Char)
  /-- Inside braces; `depth` more of them are open than the outermost. -/
  | braces (depth : Nat) (cs : List Char)
  | comment

/-- The state of the reader. -/
structure Reader where
  mode : Mode := .between
  /-- Complete expressions and open brackets, the last one first. -/
  stack : List Entry := []

/-- Closes the innermost open bracket, if it is of the given kind; `es` are the
    expressions found above it so far. -/
def closeBracket (b : Bracket) : List SExpr → List Entry → Option (List Entry)
  | _, [] => none
  | es, .expr e :: st => closeBracket b (e :: es) st
  | es, .opened b' :: st => if b = b' then some (.expr (b.wrap es) :: st) else none

namespace Reader

/-- The first character of a token, a blank or a bracket. -/
def start (st : List Entry) (c : Char) : Option Reader :=
  if isBlank c then some ⟨.between, st⟩
  else if isWordChar c then some ⟨.word [c], st⟩
  else if c = ';' then some ⟨.comment, st⟩
  else if c = '"' then some ⟨.string [], st⟩
  else if c = '\x7b' then some ⟨.braces 0 [c], st⟩
  else if c = '(' then some ⟨.between, .opened .round :: st⟩
  else if c = '[' then some ⟨.between, .opened .square :: st⟩
  else if c = ')' then (closeBracket .round [] st).map (⟨.between, ·⟩)
  else if c = ']' then (closeBracket .square [] st).map (⟨.between, ·⟩)
  else none

/-- Ends an open word. -/
def settle : Reader → Reader
  | ⟨.word cs, st⟩ => ⟨.between, .expr (.atom (String.ofList cs)) :: st⟩
  | r => r

/-- Reads one character. -/
def step (r : Reader) (c : Char) : Option Reader :=
  match r.mode with
  | .between => start r.stack c
  | .word cs => if isWordChar c then some ⟨.word (cs ++ [c]), r.stack⟩ else start r.settle.stack c
  | .string cs =>
    if c = '"' then some ⟨.between, .expr (.str (String.ofList cs)) :: r.stack⟩
    else some ⟨.string (cs ++ [c]), r.stack⟩
  | .braces depth cs =>
    if c = '\x7b' then some ⟨.braces (depth + 1) (cs ++ [c]), r.stack⟩
    else if c = '\x7d' then
      match depth with
      | 0 => some ⟨.between, .expr (.braces (String.ofList (cs ++ [c]))) :: r.stack⟩
      | depth + 1 => some ⟨.braces depth (cs ++ [c]), r.stack⟩
    else some ⟨.braces depth (cs ++ [c]), r.stack⟩
  | .comment => some ⟨if c = '\n' then .between else .comment, r.stack⟩

/-- Reads characters one after the other. -/
def run (cs : List Char) (r : Reader) : Option Reader :=
  cs.foldlM step r

end Reader

/-- The expressions of a stack on which no bracket is open, the first one first. -/
def exprs? : List Entry → Option (List SExpr)
  | [] => some []
  | .expr e :: st => (exprs? st).map (· ++ [e])
  | .opened _ :: _ => none

/-- The expressions that are complete at the end of a text; there are none if a string, a
    group in braces or a bracket is still open. -/
def Reader.result? (r : Reader) : Option (List SExpr) :=
  match r.mode with
  | .between | .word _ | .comment => exprs? r.settle.stack
  | .string _ | .braces _ _ => none

/-- The expressions of a whole text. -/
def SExpr.read? (s : String) : Option (List SExpr) :=
  (Reader.run s.toList {}).bind Reader.result?

/-- Whether the end of a text belongs to a comment. -/
def endsInComment (s : String) : Bool :=
  match Reader.run s.toList {} with
  | some ⟨.comment, _⟩ => true
  | _ => false

/-- Whether the last of the characters, and none before it, closes the outermost of
    `depth + 1` open braces. -/
def closesBraces : Nat → List Char → Bool
  | _, [] => false
  | depth, c :: cs =>
    if c = '\x7b' then closesBraces (depth + 1) cs
    else if c = '\x7d' then
      match depth with
      | 0 => cs.isEmpty
      | depth + 1 => closesBraces depth cs
    else closesBraces depth cs

/-- Whether a text is one group in braces. -/
def isBraceGroup (s : String) : Bool :=
  match s.toList with
  | [] => false
  | c :: cs => c == '\x7b' && closesBraces 0 cs

example : SExpr.read? "(a :b \"c d\" [e]) ; f\n\x7bg \x7bh\x7d\x7d +1" =
    some [.list [.atom "a", .atom ":b", .str "c d", .vector [.atom "e"]],
      .braces "\x7bg \x7bh\x7d\x7d", .atom "+1"] := by
  rfl

/-! ## One character -/

theorem push_push (st : List Entry) (es fs : List SExpr) :
    push (push st es) fs = push st (es ++ fs) := by
  simp [push]

theorem push_singleton (st : List Entry) (e : SExpr) : push st [e] = .expr e :: st := rfl

theorem exprs?_push (es : List SExpr) : exprs? (push [] es) = some es := by
  induction es using List.reverseRec with
  | nil => rfl
  | append_singleton es e ih => rw [← push_push, push_singleton, exprs?, ih]; rfl

theorem eq_push_of_exprs? {st : List Entry} {es : List SExpr} (h : exprs? st = some es) :
    st = push [] es := by
  induction st generalizing es with
  | nil => cases h; rfl
  | cons entry st ih =>
    cases entry with
    | expr e =>
      obtain ⟨fs, hfs, rfl⟩ := Option.map_eq_some_iff.1 h
      rw [ih hfs, ← push_push, push_singleton]
    | opened b => cases h

/-- The expressions above a bracket become one expression when the bracket is closed. -/
theorem closeBracket_push (b : Bracket) (st : List Entry) (es fs : List SExpr) :
    closeBracket b fs (push (.opened b :: st) es) = some (.expr (b.wrap (es ++ fs)) :: st) := by
  induction es using List.reverseRec generalizing fs with
  | nil => simp [push, closeBracket]
  | append_singleton es e ih =>
    rw [← push_push, push_singleton, closeBracket, ih, List.append_assoc]; rfl

namespace Reader

theorem run_append (cs ds : List Char) (r : Reader) :
    run (cs ++ ds) r = (run cs r).bind (run ds) :=
  List.foldlM_append

theorem run_cons (c : Char) (cs : List Char) (r : Reader) :
    run (c :: cs) r = (step r c).bind (run cs) :=
  List.foldlM_cons

@[simp]
theorem run_nil (r : Reader) : run [] r = some r := rfl

/-- A character that is no part of a word ends an open one. -/
theorem step_of_settle {r : Reader} {st : List Entry} (h : r.settle = ⟨.between, st⟩) {c : Char}
    (hc : isWordChar c = false) : step r c = step ⟨.between, st⟩ c := by
  obtain ⟨mode, stack⟩ := r
  cases mode with
  | between => cases h; rfl
  | word cs => simp [step, hc, h]
  | string cs | braces depth cs | comment => cases h

/-- Characters that are read from behind a settled word do not depend on it. -/
theorem run_of_settle {r : Reader} {st : List Entry} (h : r.settle = ⟨.between, st⟩) {c : Char}
    (hc : isWordChar c = false) (cs : List Char) :
    run (c :: cs) r = run (c :: cs) ⟨.between, st⟩ := by
  rw [run_cons, run_cons, step_of_settle h hc]

theorem run_blanks {cs : List Char} (h : ∀ c ∈ cs, isBlank c) (st : List Entry) :
    run cs ⟨.between, st⟩ = some ⟨.between, st⟩ := by
  induction cs with
  | nil => rfl
  | cons c cs ih =>
    have hc : step ⟨.between, st⟩ c = some ⟨.between, st⟩ := by
      simp [step, start, h c (by simp)]
    rw [run_cons, hc]
    exact ih fun d hd => h d (by simp [hd])

theorem run_word {cs : List Char} (h : ∀ c ∈ cs, isWordChar c) (ds : List Char)
    (st : List Entry) : run cs ⟨.word ds, st⟩ = some ⟨.word (ds ++ cs), st⟩ := by
  induction cs generalizing ds with
  | nil => simp
  | cons c cs ih =>
    have hc : step ⟨.word ds, st⟩ c = some ⟨.word (ds ++ [c]), st⟩ := by
      simp [step, h c (by simp)]
    rw [run_cons, hc]
    simpa using ih (fun d hd => h d (by simp [hd])) (ds ++ [c])

theorem run_string {cs : List Char} (h : '"' ∉ cs) (ds : List Char) (st : List Entry) :
    run cs ⟨.string ds, st⟩ = some ⟨.string (ds ++ cs), st⟩ := by
  induction cs generalizing ds with
  | nil => simp
  | cons c cs ih =>
    obtain ⟨hc, hcs⟩ := not_or.1 (mt List.mem_cons.2 h)
    have hs : step ⟨.string ds, st⟩ c = some ⟨.string (ds ++ [c]), st⟩ := by
      simp [step, Ne.symm hc]
    rw [run_cons, hs]
    simpa using ih hcs (ds ++ [c])

theorem run_comment {cs : List Char} (h : '\n' ∉ cs) (st : List Entry) :
    run cs ⟨.comment, st⟩ = some ⟨.comment, st⟩ := by
  induction cs with
  | nil => rfl
  | cons c cs ih =>
    obtain ⟨hc, hcs⟩ := not_or.1 (mt List.mem_cons.2 h)
    have hs : step ⟨.comment, st⟩ c = some ⟨.comment, st⟩ := by
      simp [step, Ne.symm hc]
    rw [run_cons, hs]
    exact ih hcs

theorem run_braces {cs : List Char} {depth : Nat} (h : closesBraces depth cs) (ds : List Char)
    (st : List Entry) :
    run cs ⟨.braces depth ds, st⟩ =
      some ⟨.between, .expr (.braces (String.ofList (ds ++ cs))) :: st⟩ := by
  induction cs generalizing depth ds with
  | nil => cases h
  | cons c cs ih =>
    rw [run_cons]
    by_cases hopen : c = '\x7b'
    · have hs : step ⟨.braces depth ds, st⟩ c = some ⟨.braces (depth + 1) (ds ++ [c]), st⟩ := by
        simp [step, hopen]
      have hcs : closesBraces (depth + 1) cs := by simpa [closesBraces, hopen] using h
      rw [hs]
      simpa using ih hcs (ds ++ [c])
    by_cases hclose : c = '\x7d'
    · cases depth with
      | zero =>
        have hcs : cs = [] := by simpa [closesBraces, hopen, hclose] using h
        subst hcs
        simp [step, hclose]
      | succ depth =>
        have hs : step ⟨.braces (depth + 1) ds, st⟩ c = some ⟨.braces depth (ds ++ [c]), st⟩ := by
          simp [step, hclose]
        have hcs : closesBraces depth cs := by simpa [closesBraces, hopen, hclose] using h
        rw [hs]
        simpa using ih hcs (ds ++ [c])
    · have hs : step ⟨.braces depth ds, st⟩ c = some ⟨.braces depth (ds ++ [c]), st⟩ := by
        simp [step, hopen, hclose]
      have hcs : closesBraces depth cs := by simpa [closesBraces, hopen, hclose] using h
      rw [hs]
      simpa using ih hcs (ds ++ [c])

/-! ## Reading on top of a stack -/

/-- The reader as it would stand if `base` had been on the stack from the start. -/
def atop (r : Reader) (base : List Entry) : Reader :=
  ⟨r.mode, r.stack ++ base⟩

theorem settle_atop (r : Reader) (base : List Entry) :
    (r.atop base).settle = r.settle.atop base := by
  obtain ⟨mode, stack⟩ := r
  cases mode <;> rfl

theorem closeBracket_append {b : Bracket} {es : List SExpr} {st st' : List Entry}
    (h : closeBracket b es st = some st') (base : List Entry) :
    closeBracket b es (st ++ base) = some (st' ++ base) := by
  induction st generalizing es with
  | nil => cases h
  | cons entry st ih =>
    cases entry with
    | expr e => exact ih h
    | opened b' =>
      simp only [closeBracket, List.cons_append] at h ⊢
      split at h
      · cases h; simp [*]
      · cases h

/-- Two choices by one condition agree if their branches do. -/
theorem ite_atop {p : Prop} [Decidable p] {a a' b b' : Option Reader} {r r' : Reader}
    (ha : a = some r → a' = some r') (hb : b = some r → b' = some r')
    (h : (if p then a else b) = some r) : (if p then a' else b') = some r' := by
  split at h
  next hp => rw [if_pos hp, ha h]
  next hp => rw [if_neg hp, hb h]

theorem start_atop {st : List Entry} {c : Char} {r : Reader} (h : start st c = some r)
    (base : List Entry) : start (st ++ base) c = some (r.atop base) := by
  have hsome : ∀ mode entries, some ⟨mode, entries ++ st⟩ = some r →
      some ⟨mode, entries ++ (st ++ base)⟩ = some (r.atop base) := by
    rintro mode entries ⟨⟩
    simp [atop]
  -- only a closing bracket looks at the stack
  have hclose : ∀ b, (closeBracket b [] st).map (Reader.mk .between) = some r →
      (closeBracket b [] (st ++ base)).map (Reader.mk .between) = some (r.atop base) := by
    intro b hb
    obtain ⟨st', hst', rfl⟩ := Option.map_eq_some_iff.1 hb
    rw [closeBracket_append hst' base]; rfl
  unfold start at h ⊢
  refine ite_atop (hsome .between []) ?_ h
  refine ite_atop (hsome (.word [c]) []) ?_
  refine ite_atop (hsome .comment []) ?_
  refine ite_atop (hsome (.string []) []) ?_
  refine ite_atop (hsome (.braces 0 [c]) []) ?_
  refine ite_atop (hsome .between [.opened .round]) ?_
  refine ite_atop (hsome .between [.opened .square]) ?_
  refine ite_atop (hclose .round) ?_
  exact ite_atop (hclose .square) fun hnone => absurd hnone (by simp)

theorem step_atop {r r' : Reader} {c : Char} (h : step r c = some r') (base : List Entry) :
    step (r.atop base) c = some (r'.atop base) := by
  obtain ⟨mode, st⟩ := r
  cases mode with
  | between => exact start_atop h base
  | word cs =>
    simp only [step, atop] at h ⊢
    split_ifs at h ⊢
    · cases h; rfl
    · exact start_atop h base
  | string cs =>
    simp only [step, atop] at h ⊢
    split_ifs at h ⊢ <;> (cases h; rfl)
  | braces depth cs =>
    cases depth <;> simp only [step, atop] at h ⊢ <;> split_ifs at h ⊢ <;> (cases h; rfl)
  | comment => cases h; rfl

theorem run_atop {cs : List Char} {r r' : Reader} (h : run cs r = some r') (base : List Entry) :
    run cs (r.atop base) = some (r'.atop base) := by
  induction cs generalizing r with
  | nil => cases h; rfl
  | cons c cs ih =>
    rw [run_cons] at h ⊢
    obtain ⟨r₁, h₁, h₂⟩ := Option.bind_eq_some_iff.1 h
    rw [step_atop h₁ base]
    exact ih h₂

end Reader

/-! ## Texts that add expressions -/

/-- From between two tokens, the text adds the expressions `es` and leaves at most a word
    open. -/
def Reads (s : String) (es : List SExpr) : Prop :=
  ∀ st, ∃ r, Reader.run s.toList ⟨.between, st⟩ = some r ∧ r.settle = ⟨.between, push st es⟩

/-- From between two tokens, the text adds the expressions `es` and leaves no token open. -/
def Closes (s : String) (es : List SExpr) : Prop :=
  ∀ st, Reader.run s.toList ⟨.between, st⟩ = some ⟨.between, push st es⟩

/-- The text does not continue a word. -/
def Breaks (s : String) : Prop :=
  ∀ c ∈ s.toList.head?, isWordChar c = false

theorem Closes.reads {s : String} {es : List SExpr} (h : Closes s es) : Reads s es :=
  fun st => ⟨_, h st, rfl⟩

theorem Closes.append {s t : String} {es fs : List SExpr} (hs : Closes s es) (ht : Closes t fs) :
    Closes (s ++ t) (es ++ fs) := by
  intro st
  rw [String.toList_append, Reader.run_append, hs st, Option.bind_some, ht, push_push]

theorem Closes.append_reads {s t : String} {es fs : List SExpr} (hs : Closes s es)
    (ht : Reads t fs) : Reads (s ++ t) (es ++ fs) := by
  intro st
  rw [String.toList_append, Reader.run_append, hs st, Option.bind_some, ← push_push]
  exact ht (push st es)

/-- **Texts follow each other** if the second does not continue a last word of the first. -/
theorem Reads.append {s t : String} {es fs : List SExpr} (hs : Reads s es) (hb : Breaks t)
    (ht : Reads t fs) : Reads (s ++ t) (es ++ fs) := by
  intro st
  obtain ⟨r, hr, hset⟩ := hs st
  obtain ⟨r', hr', hset'⟩ := ht (push st es)
  rw [push_push] at hset'
  rw [String.toList_append, Reader.run_append, hr, Option.bind_some]
  cases hcs : t.toList with
  | nil =>
    -- nothing is added, the word stays open
    rw [hcs, Reader.run_nil, Option.some.injEq] at hr'
    subst hr'
    exact ⟨r, rfl, hset.trans hset'⟩
  | cons c cs =>
    have hc : isWordChar c = false := hb c (by simp [hcs])
    rw [hcs] at hr'
    exact ⟨r', by rw [Reader.run_of_settle hset hc, hr'], hset'⟩

theorem read?_of_reads {s : String} {es : List SExpr} (h : Reads s es) :
    SExpr.read? s = some es := by
  obtain ⟨r, hr, hset⟩ := h []
  have hres : r.result? = exprs? r.settle.stack := by
    obtain ⟨mode, st⟩ := r
    cases mode with
    | between | word | comment => rfl
    | string | braces => cases hset
  rw [SExpr.read?, hr, Option.bind_some, hres, hset, exprs?_push]

/-- **A text reads anywhere as it reads by itself**, unless its end is a comment that would
    go on. -/
theorem reads_of_read? {s : String} {es : List SExpr} (h : SExpr.read? s = some es)
    (hc : endsInComment s = false) : Reads s es := by
  intro st
  obtain ⟨r, hr, hres⟩ := Option.bind_eq_some_iff.1 h
  refine ⟨r.atop st, Reader.run_atop hr st, ?_⟩
  have hset : r.settle = ⟨.between, push [] es⟩ := by
    obtain ⟨mode, stack⟩ := r
    cases mode with
    | between => rw [← eq_push_of_exprs? hres]; rfl
    | word cs => rw [← eq_push_of_exprs? hres]; rfl
    | string | braces => cases hres
    | comment => simp [endsInComment, hr] at hc
  rw [Reader.settle_atop, hset]
  simp [Reader.atop, push]

/-! ## Texts that break words -/

theorem breaks_empty : Breaks "" := by
  simp [Breaks]

/-- Whether a text begins with a character that ends a word. -/
def isBreak (s : String) : Bool :=
  s.toList.head?.any (!isWordChar ·)

theorem breaks_start {s : String} (h : isBreak s) (t : String) : Breaks (s ++ t) := by
  intro c hc
  obtain ⟨d, hd, hw⟩ := (Option.any_eq_true _ _).1 h
  obtain rfl : d = c := by simpa [hd] using hc
  simpa using hw

theorem breaks_append {s t : String} (hs : Breaks s) (ht : Breaks t) : Breaks (s ++ t) := by
  unfold Breaks at *
  rw [String.toList_append]
  cases h : s.toList with
  | nil => simpa using ht
  | cons c cs => simpa [h] using hs

/-! ## Tokens -/

theorem closes_empty : Closes "" [] := fun _ => rfl

theorem closes_blanks {s : String} (h : s.toList.all isBlank) : Closes s [] :=
  fun st => Reader.run_blanks (List.all_eq_true.1 h) st

theorem closes_comment {s : String} (h : '\n' ∉ s.toList) : Closes (";" ++ s ++ "\n") [] := by
  intro st
  have hs : Reader.run ";".toList ⟨.between, st⟩ = some ⟨.comment, st⟩ := rfl
  rw [String.toList_append, String.toList_append, Reader.run_append, Reader.run_append, hs,
    Option.bind_some, Reader.run_comment h]
  rfl

theorem closes_string {s : String} (h : '"' ∉ s.toList) :
    Closes ("\"" ++ s ++ "\"") [.str s] := by
  intro st
  have hs : Reader.run "\"".toList ⟨.between, st⟩ = some ⟨.string [], st⟩ := rfl
  rw [String.toList_append, String.toList_append, Reader.run_append, Reader.run_append, hs,
    Option.bind_some, Reader.run_string h]
  simp [Reader.run, Reader.step, push_singleton]

theorem closes_braces {s : String} (h : isBraceGroup s) : Closes s [.braces s] := by
  intro st
  cases hcs : s.toList with
  | nil => simp [isBraceGroup, hcs] at h
  | cons c cs =>
    obtain ⟨rfl, hcl⟩ : c = '\x7b' ∧ closesBraces 0 cs := by simpa [isBraceGroup, hcs] using h
    have hs : Reader.step ⟨.between, st⟩ '\x7b' = some ⟨.braces 0 ['\x7b'], st⟩ := rfl
    rw [Reader.run_cons, hs, Option.bind_some, Reader.run_braces hcl, List.singleton_append, ← hcs,
      String.ofList_toList, push_singleton]

theorem reads_word {s : String} (hne : s ≠ "") (h : ∀ c ∈ s.toList, isWordChar c) :
    Reads s [.atom s] := by
  intro st
  cases hcs : s.toList with
  | nil => exact absurd (String.toList_eq_nil_iff.1 hcs) hne
  | cons c cs =>
    have hc : isWordChar c := h c (by simp [hcs])
    have hb : isBlank c = false := by
      simp only [isWordChar, Bool.and_eq_true, Bool.not_eq_true'] at hc
      exact hc.1
    have hs : Reader.step ⟨.between, st⟩ c = some ⟨.word [c], st⟩ := by
      simp [Reader.step, Reader.start, hb, hc]
    refine ⟨⟨.word s.toList, st⟩, ?_, ?_⟩
    · rw [Reader.run_cons, hs, Option.bind_some,
        Reader.run_word (fun d hd => h d (by simp [hcs, hd])), hcs]
      rfl
    · simp [Reader.settle, push_singleton]

/-- **Brackets hold what stands between them.** -/
theorem closes_brackets (b : Bracket) {s : String} {es : List SExpr} (h : Reads s es) :
    Closes (b.opening ++ s ++ b.closing) [b.wrap es] := by
  intro st
  have hopen : Reader.run b.opening.toList ⟨.between, st⟩ = some ⟨.between, .opened b :: st⟩ := by
    cases b <;> rfl
  obtain ⟨r, hr, hset⟩ := h (.opened b :: st)
  -- the closing bracket ends a word that is still open
  have hclose : Reader.run b.closing.toList r =
      Reader.run b.closing.toList ⟨.between, push (.opened b :: st) es⟩ := by
    cases b with
    | round => exact Reader.run_of_settle hset rfl []
    | square => exact Reader.run_of_settle hset rfl []
  have hpop := closeBracket_push b st es []
  rw [List.append_nil] at hpop
  rw [String.toList_append, String.toList_append, Reader.run_append, Reader.run_append, hopen,
    Option.bind_some, hr, Option.bind_some, hclose, push_singleton]
  cases b with
  | round =>
    have hs : Reader.start (push (.opened .round :: st) es) ')' =
        (closeBracket .round [] (push (.opened .round :: st) es)).map (⟨.between, ·⟩) := rfl
    simp [Bracket.closing, Reader.run, Reader.step, hs, hpop]
  | square =>
    have hs : Reader.start (push (.opened .square :: st) es) ']' =
        (closeBracket .square [] (push (.opened .square :: st) es)).map (⟨.between, ·⟩) := rfl
    simp [Bracket.closing, Reader.run, Reader.step, hs, hpop]

end WidgetMarkup.Yuck
