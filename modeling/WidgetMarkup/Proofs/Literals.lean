/-
  Which literal a raw text stands for.

  * `Numeral.Denotes` says which integer a text is a numeral of, and `readInt?_eq_some_iff`
    that reading finds it.  A reader that holds no more than 64 bits and gives up at the
    first step that leaves them (`Numeral.readInt64?`) accepts the same numerals as one that
    looks at the value in the end (`readInt64?_eq_some_iff`): once a value is too great, no
    further digit makes it fit again (`not_fits_foldl`).
  * `Literal.StandsFor` says what a text must be like for each kind of literal.  The kinds
    exclude one another, so the order in which `infer` tries them does not matter
    (`infer_of_standsFor`).
-/
import Mathlib.Data.Nat.Digits.Defs
import Mathlib.Data.List.Forall2
import Mathlib.Data.List.Induction
import Mathlib.Tactic.Ring
import WidgetMarkup.Yuck.Literal

namespace WidgetMarkup

namespace Numeral

/-! ## Numerals -/

/-- The value of a decimal digit. -/
def digit (c : Char) : Nat :=
  c.toNat - '0'.toNat

/-- The number that digits denote in the decimal system; the last digit counts ones. -/
def decimal (digits : List Char) : Nat :=
  Nat.ofDigits 10 (digits.reverse.map digit)

/-- One or more decimal digits. -/
def IsDigits (cs : List Char) : Prop :=
  cs ≠ [] ∧ ∀ c ∈ cs, c.isDigit

/-- The characters are a numeral of the integer: at most one sign, then digits. -/
inductive Denotes : List Char → Int → Prop where
  | unsigned {digits : List Char} (h : IsDigits digits) : Denotes digits (decimal digits)
  | plus {digits : List Char} (h : IsDigits digits) : Denotes ('+' :: digits) (decimal digits)
  | minus {digits : List Char} (h : IsDigits digits) : Denotes ('-' :: digits) (-decimal digits)

theorem valueOf_concat (digits : List Char) (c : Char) :
    valueOf (digits ++ [c]) = 10 * valueOf digits + digit c := by
  rw [valueOf, List.foldl_append]
  rfl

theorem valueOf_eq_decimal (digits : List Char) : valueOf digits = decimal digits := by
  induction digits using List.reverseRecOn with
  | nil => rfl
  | append_singleton digits c ih =>
    rw [valueOf_concat, ih, decimal, decimal, List.reverse_concat, List.map_cons,
      Nat.ofDigits_cons, Nat.add_comm]

theorem readNat?_eq_some_iff {cs : List Char} {n : Nat} :
    readNat? cs = some n ↔ IsDigits cs ∧ decimal cs = n := by
  simp [readNat?, IsDigits, valueOf_eq_decimal]

theorem not_isDigits_cons {c : Char} (h : c.isDigit = false) (cs : List Char) :
    ¬ IsDigits (c :: cs) := by
  intro hdigits
  have hc := hdigits.2 c List.mem_cons_self
  rw [h] at hc
  cases hc

/-- The integer that digits denote behind a sign. -/
def signed (negative : Bool) (digits : List Char) : Int :=
  if negative then -(decimal digits : Int) else decimal digits

/-- A way to read digits behind a sign, with a condition on the integers that it accepts, is a
    way to read numerals with the same condition. -/
theorem match_sign_eq_some_iff {read : Bool → List Char → Option Int} {P : Int → Prop}
    (hread : ∀ {negative cs n}, read negative cs = some n ↔
      IsDigits cs ∧ signed negative cs = n ∧ P n) {cs : List Char} {n : Int} :
    (match cs with
      | '-' :: cs => read true cs
      | '+' :: cs => read false cs
      | cs => read false cs) = some n ↔ Denotes cs n ∧ P n := by
  constructor
  · intro h
    split at h <;> obtain ⟨hdigits, rfl, hP⟩ := hread.1 h
    · exact ⟨.minus hdigits, hP⟩
    · exact ⟨.plus hdigits, hP⟩
    · exact ⟨.unsigned hdigits, hP⟩
  · rintro ⟨hdigits | hdigits | hdigits, hP⟩
    · -- a digit is no sign
      split
      · exact absurd hdigits (not_isDigits_cons rfl _)
      · exact absurd hdigits (not_isDigits_cons rfl _)
      · exact hread.2 ⟨hdigits, rfl, hP⟩
    · exact hread.2 ⟨hdigits, rfl, hP⟩
    · exact hread.2 ⟨hdigits, rfl, hP⟩

/-- Reads digits behind a sign. -/
def readSigned? (negative : Bool) (cs : List Char) : Option Int :=
  (readNat? cs).map fun n : Nat => if negative then -(n : Int) else n

theorem readSigned?_eq_some_iff {negative : Bool} {cs : List Char} {n : Int} :
    readSigned? negative cs = some n ↔ IsDigits cs ∧ signed negative cs = n ∧ True := by
  simp only [readSigned?, Option.map_eq_some_iff, readNat?_eq_some_iff]
  constructor
  · rintro ⟨m, ⟨hdigits, rfl⟩, rfl⟩
    exact ⟨hdigits, rfl, trivial⟩
  · rintro ⟨hdigits, rfl, -⟩
    exact ⟨_, ⟨hdigits, rfl⟩, rfl⟩

/-- **Reading a numeral gives the integer that it denotes.** -/
theorem readInt?_eq_some_iff {cs : List Char} {n : Int} : readInt? cs = some n ↔ Denotes cs n := by
  have hread : readInt? cs = match cs with
      | '-' :: cs => readSigned? true cs
      | '+' :: cs => readSigned? false cs
      | cs => readSigned? false cs := by
    unfold readInt?
    split <;> simp [readSigned?, Option.map_eq_bind, Option.bind_assoc]
  rw [hread]
  exact (match_sign_eq_some_iff readSigned?_eq_some_iff).trans (iff_of_eq (and_true _))

/-- A numeral of a value from -2^63 to 2^63 - 1. -/
def IsInt64Numeral (cs : List Char) : Prop :=
  ∃ n, Denotes cs n ∧ -2 ^ 63 ≤ n ∧ n ≤ 2 ^ 63 - 1

theorem isInt64Numeral_iff {cs : List Char} :
    IsInt64Numeral cs ↔ ∃ n, Denotes cs n ∧ FitsInt64 n :=
  Iff.rfl

theorem isInt64_iff {cs : List Char} : isInt64 cs ↔ IsInt64Numeral cs := by
  simp only [isInt64Numeral_iff, ← readInt?_eq_some_iff, isInt64]
  cases readInt? cs <;> simp

/-! ## Numerals within 64 bits -/

/-- The number, if it fits into 64 bits. -/
def fit? (n : Int) : Option Int :=
  if FitsInt64 n then some n else none

/-- The number with one digit more at its end.  Negative numbers grow downwards. -/
def withDigit (negative : Bool) (n : Int) (c : Char) : Int :=
  if negative then 10 * n - digit c else 10 * n + digit c

/-- The same within 64 bits: neither the tenfold number nor the new one may leave them. -/
def withDigit? (negative : Bool) (n : Int) (c : Char) : Option Int :=
  if c.isDigit then (fit? (10 * n)).bind fun _ => fit? (withDigit negative n c) else none

/-- Reads one or more digits from left to right within 64 bits. -/
def readDigits64? (negative : Bool) (cs : List Char) : Option Int :=
  if cs = [] then none else cs.foldlM (withDigit? negative) 0

/-- Reads an optionally signed numeral from left to right within 64 bits. -/
def readInt64? : List Char → Option Int
  | '-' :: cs => readDigits64? true cs
  | '+' :: cs => readDigits64? false cs
  | cs => readDigits64? false cs

/-- The number is zero or has the sign. -/
def OnSide (negative : Bool) (n : Int) : Prop :=
  if negative then n ≤ 0 else 0 ≤ n

section
variable {negative : Bool} {n : Int} {c : Char} {cs : List Char}

theorem onSide_withDigit (h : OnSide negative n) : OnSide negative (withDigit negative n c) := by
  cases negative <;> simp [OnSide, withDigit] at * <;> omega

/-- Among numbers of one sign, digits at the end take a number away from zero. -/
theorem fits_of_withDigit (h : OnSide negative n) (hfits : FitsInt64 (withDigit negative n c)) :
    FitsInt64 (10 * n) ∧ FitsInt64 n := by
  cases negative <;> simp [OnSide, withDigit, FitsInt64] at * <;> omega

theorem withDigit?_eq (h : OnSide negative n) (hc : c.isDigit) :
    withDigit? negative n c = fit? (withDigit negative n c) := by
  rw [withDigit?, if_pos hc, fit?, fit?]
  by_cases hfits : FitsInt64 (withDigit negative n c)
  · rw [if_pos (fits_of_withDigit h hfits).1, Option.bind_some]
  · rw [if_neg hfits]
    split_ifs <;> rfl

/-- Once a number does not fit, no further digit makes it fit. -/
theorem not_fits_foldl (h : OnSide negative n) (hfits : ¬ FitsInt64 n) :
    ¬ FitsInt64 (cs.foldl (withDigit negative) n) := by
  induction cs generalizing n with
  | nil => exact hfits
  | cons c cs ih =>
    exact ih (onSide_withDigit h) fun hmore => hfits (fits_of_withDigit h hmore).2

/-- **Reading on within 64 bits gives the value if that fits.** -/
theorem foldlM_withDigit? (h : OnSide negative n) (hfits : FitsInt64 n)
    (hdigits : ∀ c ∈ cs, c.isDigit) :
    cs.foldlM (withDigit? negative) n = fit? (cs.foldl (withDigit negative) n) := by
  induction cs generalizing n with
  | nil => exact (if_pos hfits).symm
  | cons c cs ih =>
    obtain ⟨hc, hcs⟩ := List.forall_mem_cons.1 hdigits
    rw [List.foldlM_cons, withDigit?_eq h hc, List.foldl_cons]
    by_cases hmore : FitsInt64 (withDigit negative n c)
    · rw [fit?, if_pos hmore]
      exact ih (onSide_withDigit h) hmore hcs
    · rw [fit?, if_neg hmore, fit?, if_neg (not_fits_foldl (onSide_withDigit h) hmore)]
      rfl

theorem isDigit_of_foldlM {m : Int} (h : cs.foldlM (withDigit? negative) n = some m) :
    ∀ c ∈ cs, c.isDigit := by
  induction cs generalizing n with
  | nil => exact nofun
  | cons c cs ih =>
    rw [List.foldlM_cons, Option.bind_eq_bind, Option.bind_eq_some_iff] at h
    obtain ⟨next, hnext, hrest⟩ := h
    refine List.forall_mem_cons.2 ⟨?_, ih hrest⟩
    by_contra hc
    simp [withDigit?, hc] at hnext

theorem foldl_withDigit (negative : Bool) (cs : List Char) :
    cs.foldl (withDigit negative) 0 = signed negative cs := by
  rw [signed, ← valueOf_eq_decimal]
  induction cs using List.reverseRecOn with
  | nil => cases negative <;> rfl
  | append_singleton cs c ih =>
    rw [List.foldl_append, List.foldl_cons, List.foldl_nil, ih, valueOf_concat, withDigit]
    cases negative <;> simp
    ring

theorem readDigits64?_eq_some_iff : readDigits64? negative cs = some n ↔
    IsDigits cs ∧ signed negative cs = n ∧ FitsInt64 n := by
  have hzero : OnSide negative 0 := by cases negative <;> simp [OnSide]
  have hread : (∀ c ∈ cs, c.isDigit) → cs.foldlM (withDigit? negative) 0 =
      fit? (signed negative cs) := fun hdigits => by
    rw [foldlM_withDigit? hzero (by decide) hdigits, foldl_withDigit]
  rw [readDigits64?]
  constructor
  · intro h
    split_ifs at h with hnil
    have hdigits := isDigit_of_foldlM h
    rw [hread hdigits, fit?, Option.ite_none_right_eq_some, Option.some.injEq] at h
    exact ⟨⟨hnil, hdigits⟩, h.2, h.2 ▸ h.1⟩
  · rintro ⟨⟨hnil, hdigits⟩, rfl, hfits⟩
    rw [if_neg hnil, hread hdigits, fit?, if_pos hfits]

end

/-- **A reader of 64 bits accepts the numerals whose value fits into them.** -/
theorem readInt64?_eq_some_iff {cs : List Char} {n : Int} :
    readInt64? cs = some n ↔ Denotes cs n ∧ FitsInt64 n :=
  match_sign_eq_some_iff readDigits64?_eq_some_iff

end Numeral

namespace Yuck

/-! ## Enclosed texts -/

/-- A text of two characters or more with the given ones at its start and at its end. -/
structure IsEnclosed (opening closing : Char) (raw : String) : Prop where
  two_le : 2 ≤ raw.length
  head : raw.toList.head? = some opening
  last : raw.toList.getLast? = some closing

theorem enclosed?_eq_some_iff {opening closing : Char} {cs inside : List Char} :
    enclosed? opening closing cs = some inside ↔ cs = opening :: (inside ++ [closing]) := by
  cases cs with
  | nil => simp [enclosed?]
  | cons c cs =>
    rw [enclosed?, Option.ite_none_right_eq_some, Option.some.injEq, List.cons.injEq, and_assoc]
    refine and_congr_right fun _ => ?_
    constructor
    · rintro ⟨hlast, rfl⟩
      exact (List.dropLast_append_getLast? closing hlast).symm
    · rintro rfl
      exact ⟨List.getLast?_concat, List.dropLast_concat⟩

theorem isSome_enclosed?_iff {opening closing : Char} {raw : String} :
    (enclosed? opening closing raw.toList).isSome ↔ IsEnclosed opening closing raw := by
  rw [Option.isSome_iff_exists]
  simp only [enclosed?_eq_some_iff]
  constructor
  · rintro ⟨inside, h⟩
    refine ⟨?_, ?_, ?_⟩
    · rw [← String.length_toList, h]
      simp
    · rw [h]
      rfl
    · rw [h, ← List.cons_append, List.getLast?_concat]
  · rintro ⟨htwo, hhead, hlast⟩
    obtain ⟨rest, hrest⟩ := List.head?_eq_some_iff.1 hhead
    rw [← String.length_toList, hrest, List.length_cons] at htwo
    have hne : rest ≠ [] := List.ne_nil_of_length_pos (by omega)
    rw [hrest, List.getLast?_cons_of_ne_nil hne] at hlast
    exact ⟨rest.dropLast, by rw [hrest, List.dropLast_append_getLast? closing hlast]⟩

/-- The brackets of a list are one byte each, so what is between them stands between two
    characters of the text. -/
theorem slice_of_brackets (inside : String) :
    let raw := "[" ++ inside ++ "]"
    1 ≤ raw.utf8ByteSize - 1 ∧ String.Pos.Raw.IsValid raw ⟨1⟩ ∧
      String.Pos.Raw.IsValid raw ⟨raw.utf8ByteSize - 1⟩ ∧
      raw.toUTF8.extract 1 (raw.utf8ByteSize - 1) = inside.toUTF8 := by
  intro raw
  have hsize : raw.utf8ByteSize = 1 + inside.utf8ByteSize + 1 := by
    simp only [raw, String.utf8ByteSize_append]
    rfl
  have hend : raw.utf8ByteSize - 1 = ("[" ++ inside).utf8ByteSize := by
    rw [hsize, String.utf8ByteSize_append]
    rfl
  refine ⟨by omega, ?_, ?_, ?_⟩
  · exact String.Pos.Raw.isValid_iff_exists_append.2
      ⟨"[", inside ++ "]", String.append_assoc, rfl⟩
  · exact String.Pos.Raw.isValid_iff_exists_append.2
      ⟨"[" ++ inside, "]", rfl, by rw [hend]; rfl⟩
  · have hbehind := ByteArray.extract_append_size_add (a := "[".toByteArray)
      (b := inside.toByteArray ++ "]".toByteArray) (i := 0) (j := inside.utf8ByteSize)
    rw [hend, String.utf8ByteSize_append, String.toUTF8, String.toByteArray_append,
      String.toByteArray_append, ByteArray.append_assoc]
    exact hbehind.trans (ByteArray.extract_append_eq_left String.size_toByteArray.symm)

/-! ## Truth values -/

/-- The word of a truth value. -/
def truthWord (b : Bool) : String :=
  if b then "true" else "false"

/-- The text is a word of small letters, but for the case of its letters. -/
def IsWordUpToCase (word raw : String) : Prop :=
  List.Forall₂ (fun c w => c = w ∨ c = w.toUpper) raw.toList word.toList

theorem toLower_eq_iff {c w : Char} (h : 'a' ≤ w ∧ w ≤ 'z') :
    c.toLower = w ↔ c = w ∨ c = w.toUpper := by
  have hletters : 'a'.val.toNat = 97 ∧ 'z'.val.toNat = 122 ∧ 'A'.val.toNat = 65 ∧
      'Z'.val.toNat = 90 := by decide
  simp only [Char.le_def, UInt32.le_iff_toNat_le] at h
  unfold Char.toLower Char.toUpper
  simp only [ge_iff_le, UInt32.le_iff_toNat_le]
  split <;> simp only [Char.ext_iff, ← UInt32.toNat_inj, UInt32.toNat_add, UInt32.toNat_sub] <;>
    omega

theorem map_toLower_eq_iff {cs word : List Char} (h : ∀ w ∈ word, 'a' ≤ w ∧ w ≤ 'z') :
    cs.map Char.toLower = word ↔ List.Forall₂ (fun c w => c = w ∨ c = w.toUpper) cs word := by
  induction word generalizing cs with
  | nil => simp
  | cons w word ih =>
    obtain ⟨hw, hword⟩ := List.forall_mem_cons.1 h
    cases cs with
    | nil => simp
    | cons c cs =>
      rw [List.map_cons, List.cons.injEq, List.forall₂_cons, ih hword, toLower_eq_iff hw]

theorem truth?_eq_some_iff {raw : String} {b : Bool} :
    truth? raw.toList = some b ↔ IsWordUpToCase (truthWord b) raw := by
  have hword : ∀ b, ∀ w ∈ (truthWord b).toList, 'a' ≤ w ∧ w ≤ 'z' := by
    rintro (_ | _) <;> simp [truthWord]
  have hlower : ∀ b, raw.toList.map Char.toLower = (truthWord b).toList ↔
      IsWordUpToCase (truthWord b) raw := fun b => map_toLower_eq_iff (hword b)
  rw [← hlower, truth?]
  split_ifs with htrue hfalse
  · cases b <;> simp [htrue, truthWord]
  · cases b <;> simp [hfalse, truthWord]
  · simp only [false_iff]
    cases b with
    | true => exact htrue
    | false => exact hfalse

/-! ## Kinds of literals -/

namespace Literal

/-- What a raw text must be like to stand for a literal. -/
def StandsFor (raw : String) : Literal → Prop
  | .int numeral => numeral = raw ∧ Numeral.IsInt64Numeral raw.toList
  | .expr source => source = raw ∧ IsEnclosed '\x7b' '\x7d' raw
  | .call source => source = raw ∧ IsEnclosed '(' ')' raw
  | .list inside => raw = "[" ++ inside ++ "]"
  | .bool b => IsWordUpToCase (truthWord b) raw
  | .str content => content = raw ∧ ¬ Numeral.IsInt64Numeral raw.toList ∧
    ¬ IsEnclosed '\x7b' '\x7d' raw ∧ ¬ IsEnclosed '(' ')' raw ∧
    (∀ inside, raw ≠ "[" ++ inside ++ "]") ∧ ∀ b, ¬ IsWordUpToCase (truthWord b) raw

theorem toList_brackets (inside : String) :
    ("[" ++ inside ++ "]").toList = '[' :: (inside.toList ++ [']']) := by
  simp

theorem enclosed?_brackets {raw inside : String} :
    enclosed? '[' ']' raw.toList = some inside.toList ↔ raw = "[" ++ inside ++ "]" := by
  rw [enclosed?_eq_some_iff, ← toList_brackets, String.toList_inj]

/-- A text stands for the literal that is inferred from it. -/
theorem standsFor_infer (raw : String) : StandsFor raw (infer raw) := by
  rw [infer]
  split_ifs with hint hexpr hcall
  · exact ⟨rfl, Numeral.isInt64_iff.1 hint⟩
  · exact ⟨rfl, isSome_enclosed?_iff.1 hexpr⟩
  · exact ⟨rfl, isSome_enclosed?_iff.1 hcall⟩
  rw [Numeral.isInt64_iff] at hint
  rw [isSome_enclosed?_iff] at hexpr hcall
  split
  · next inside hlist =>
    rw [← String.toList_ofList (l := inside), enclosed?_brackets] at hlist
    exact hlist
  next hlist =>
  split
  · next b hbool => exact truth?_eq_some_iff.1 hbool
  next hbool =>
  refine ⟨rfl, hint, hexpr, hcall, fun inside hraw => ?_, fun b hraw => ?_⟩
  · rw [enclosed?_brackets.2 hraw] at hlist
    cases hlist
  · rw [truth?_eq_some_iff.2 hraw] at hbool
    cases hbool

/-- The characters that a numeral can start with. -/
def startsNumeral (c : Char) : Bool :=
  c.isDigit || c == '+' || c == '-'

theorem isInt64_cons_eq_false {c : Char} (h : startsNumeral c = false) (cs : List Char) :
    Numeral.isInt64 (c :: cs) = false := by
  refine Bool.eq_false_iff.2 fun hint => ?_
  obtain ⟨n, hdenotes, -⟩ := Numeral.isInt64_iff.1 hint
  cases hdenotes with
  | unsigned hdigits =>
    refine Numeral.not_isDigits_cons ?_ cs hdigits
    simp only [startsNumeral, Bool.or_eq_false_iff] at h
    exact h.1.1
  | plus | minus => cases h

theorem enclosed?_cons_eq_none {opening closing c : Char} (h : c ≠ opening) (cs : List Char) :
    enclosed? opening closing (c :: cs) = none :=
  if_neg fun hc => h hc.1

/-- A truth value starts with the first letter of its word. -/
theorem exists_cons_of_isWordUpToCase {raw : String} {b : Bool}
    (h : IsWordUpToCase (truthWord b) raw) :
    ∃ c cs, raw.toList = c :: cs ∧ c ∈ ['t', 'T', 'f', 'F'] := by
  have hfirst : ∀ w word, (truthWord b).toList = w :: word →
      ∃ c cs, raw.toList = c :: cs ∧ (c = w ∨ c = w.toUpper) := by
    intro w word hword
    rw [IsWordUpToCase, hword] at h
    obtain ⟨c, cs, hc, -, hcs⟩ := List.forall₂_cons_right_iff.1 h
    exact ⟨c, cs, hcs, hc⟩
  cases b with
  | true =>
    obtain ⟨c, cs, hcs, hc⟩ := hfirst 't' _ rfl
    exact ⟨c, cs, hcs, by rcases hc with rfl | rfl <;> decide⟩
  | false =>
    obtain ⟨c, cs, hcs, hc⟩ := hfirst 'f' _ rfl
    exact ⟨c, cs, hcs, by rcases hc with rfl | rfl <;> decide⟩

/-- No text stands for another literal: texts of different kinds start differently. -/
theorem infer_of_standsFor {raw : String} {l : Literal} (h : StandsFor raw l) : infer raw = l := by
  rw [infer]
  cases l with
  | int numeral =>
    obtain ⟨rfl, hint⟩ := h
    rw [if_pos (Numeral.isInt64_iff.2 hint)]
  | expr source =>
    obtain ⟨rfl, hexpr⟩ := h
    obtain ⟨cs, hcs⟩ := List.head?_eq_some_iff.1 hexpr.head
    have hint : Numeral.isInt64 source.toList = false := hcs ▸ isInt64_cons_eq_false rfl cs
    rw [hint, isSome_enclosed?_iff.2 hexpr]
    rfl
  | call source =>
    obtain ⟨rfl, hcall⟩ := h
    obtain ⟨cs, hcs⟩ := List.head?_eq_some_iff.1 hcall.head
    have hint : Numeral.isInt64 source.toList = false := hcs ▸ isInt64_cons_eq_false rfl cs
    have hexpr : enclosed? '\x7b' '\x7d' source.toList = none :=
      hcs ▸ enclosed?_cons_eq_none (by decide) cs
    rw [hint, hexpr, isSome_enclosed?_iff.2 hcall]
    rfl
  | list inside =>
    have hcs := toList_brackets inside
    rw [← h] at hcs
    have hint : Numeral.isInt64 raw.toList = false := hcs ▸ isInt64_cons_eq_false rfl _
    have hexpr : enclosed? '\x7b' '\x7d' raw.toList = none :=
      hcs ▸ enclosed?_cons_eq_none (by decide) _
    have hcall : enclosed? '(' ')' raw.toList = none :=
      hcs ▸ enclosed?_cons_eq_none (by decide) _
    rw [hint, hexpr, hcall, enclosed?_brackets.2 h]
    exact congrArg Literal.list String.ofList_toList
  | bool b =>
    obtain ⟨c, cs, hcs, hc⟩ := exists_cons_of_isWordUpToCase h
    have hother : ∀ c ∈ ['t', 'T', 'f', 'F'], startsNumeral c = false ∧ c ≠ '\x7b' ∧
        c ≠ '(' ∧ c ≠ '[' := by simp [startsNumeral]
    obtain ⟨hnumeral, hbrace, hparen, hbracket⟩ := hother c hc
    have hint : Numeral.isInt64 raw.toList = false := hcs ▸ isInt64_cons_eq_false hnumeral cs
    have hexpr : enclosed? '\x7b' '\x7d' raw.toList = none :=
      hcs ▸ enclosed?_cons_eq_none hbrace cs
    have hcall : enclosed? '(' ')' raw.toList = none := hcs ▸ enclosed?_cons_eq_none hparen cs
    have hlist : enclosed? '[' ']' raw.toList = none := hcs ▸ enclosed?_cons_eq_none hbracket cs
    rw [hint, hexpr, hcall, hlist, truth?_eq_some_iff.2 h]
    rfl
  | str content =>
    obtain ⟨rfl, hint, hexpr, hcall, hlist, hbool⟩ := h
    rw [if_neg (mt Numeral.isInt64_iff.1 hint), if_neg (mt isSome_enclosed?_iff.1 hexpr),
      if_neg (mt isSome_enclosed?_iff.1 hcall)]
    split
    · next inside henclosed =>
      rw [← String.toList_ofList (l := inside), enclosed?_brackets] at henclosed
      exact absurd henclosed (hlist _)
    · split
      · next b htruth => exact absurd (truth?_eq_some_iff.1 htruth) (hbool b)
      · rfl

theorem text_bool (b : Bool) : (Literal.bool b).text = truthWord b := by
  cases b <;> rfl

theorem infer_truthWord (b : Bool) : infer (truthWord b) = .bool b := by
  cases b <;> decide

/-- **A raw text stands for one literal, by its shape alone.**  It is an integer if it is a
    numeral, with at most one sign and any leading zeros, of a value that fits into 64 bits; a
    reader that never holds more than 64 bits accepts the same numerals.  It is an expression,
    a call or a list if it is enclosed in braces, parentheses or brackets, a truth value if it
    is the word for it up to case, and a string otherwise.  Integers, expressions and calls
    are written as they are, truth values as their words, and all of these are read back; of a
    list, what is between the brackets is written, and it begins and ends between characters. -/
theorem infer_classifies (raw : String) :
    (∀ l, infer raw = l ↔ StandsFor raw l) ∧
    ((Numeral.readInt64? raw.toList).isSome ↔ Numeral.IsInt64Numeral raw.toList) ∧
    match infer raw with
    | .int _ | .expr _ | .call _ =>
      (infer raw).text = raw ∧ infer (infer raw).text = infer raw
    | .list inside =>
      (infer raw).text = inside ∧ 1 ≤ raw.utf8ByteSize - 1 ∧
      String.Pos.Raw.IsValid raw ⟨1⟩ ∧ String.Pos.Raw.IsValid raw ⟨raw.utf8ByteSize - 1⟩ ∧
      raw.toUTF8.extract 1 (raw.utf8ByteSize - 1) = inside.toUTF8
    | .bool b => (infer raw).text = truthWord b ∧ infer (infer raw).text = infer raw
    | .str _ => (infer raw).text = "\"" ++ raw ++ "\"" := by
  have hself := standsFor_infer raw
  refine ⟨fun l => ⟨fun h => h ▸ hself, infer_of_standsFor⟩, ?_, ?_⟩
  · rw [Option.isSome_iff_exists, Numeral.isInt64Numeral_iff]
    exact exists_congr fun n => Numeral.readInt64?_eq_some_iff
  · cases hl : infer raw with
    | int | expr | call =>
      rw [hl] at hself
      obtain ⟨rfl, -⟩ := hself
      exact ⟨rfl, hl⟩
    | list inside =>
      rw [hl] at hself
      obtain rfl : raw = "[" ++ inside ++ "]" := hself
      exact ⟨rfl, slice_of_brackets inside⟩
    | bool b =>
      dsimp only
      rw [text_bool]
      exact ⟨rfl, infer_truthWord b⟩
    | str content =>
      rw [hl] at hself
      obtain ⟨rfl, -⟩ := hself
      rfl

example : infer "-9223372036854775808" = .int "-9223372036854775808" := by decide

example : infer "+009223372036854775808" = .str "+009223372036854775808" := by decide

end Literal

end Yuck

end WidgetMarkup
