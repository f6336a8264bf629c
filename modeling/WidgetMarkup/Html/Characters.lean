/-
  Characters of HTML text.

  * Line ends and the byte order mark are dealt with before anything is read
    (`inputChars`).
  * `behind`, `afterWord?` and `nameOf` read the parts that tags and declarations are
    made of.  What they leave is never longer than what they are given.
-/
import WidgetMarkup.Html.Reference
import WidgetMarkup.Html.Token

namespace WidgetMarkup.Html

/-! ## The input -/

/-- Line ends become line feeds: a carriage return with the line feed behind it, or a
    carriage return alone. -/
def unifyLineEnds : List Char → List Char
  | '\r' :: '\n' :: cs => '\n' :: unifyLineEnds cs
  | '\r' :: cs => '\n' :: unifyLineEnds cs
  | c :: cs => c :: unifyLineEnds cs
  | [] => []

/-- The input without a byte order mark at its start. -/
def dropByteOrderMark : List Char → List Char
  | '\uFEFF' :: cs => cs
  | cs => cs

/-- The characters of an HTML text, ready to be read. -/
def inputChars (s : String) : List Char :=
  unifyLineEnds (dropByteOrderMark s.toList)

/-! ## Parts of tags and declarations -/

/-- The replacement character in place of NUL. -/
def replaceNul (c : Char) : Char :=
  if c == '\x00' then replacementChar else c

/-- The characters of a tag or attribute name: letters in lower case, NUL replaced. -/
def nameOf (cs : List Char) : String :=
  String.ofList (cs.map fun c => (replaceNul c).toLower)

/-- What stands behind the next occurrence of a character. -/
def behind (c : Char) (cs : List Char) : List Char :=
  (cs.dropWhile (· != c)).drop 1

/-- What stands behind a word, whatever the case of its letters, if the text starts
    with it. -/
def afterWord? : List Char → List Char → Option (List Char)
  | [], cs => some cs
  | w :: ws, c :: cs => if c.toLower == w then afterWord? ws cs else none
  | _ :: _, [] => none

/-- Whether a tag name ends before this character. -/
def endsTagName (c : Char) : Bool :=
  isSpace c || c == '/' || c == '>'

/-! ## Lengths -/

theorem length_dropWhile_le {α : Type} (p : α → Bool) (l : List α) :
    (l.dropWhile p).length ≤ l.length :=
  (List.dropWhile_sublist p).length_le

theorem length_dropByteOrderMark_le (cs : List Char) :
    (dropByteOrderMark cs).length ≤ cs.length := by
  unfold dropByteOrderMark
  split
  · exact Nat.le_succ _
  · exact Nat.le_refl _

theorem length_behind_le (c : Char) (cs : List Char) : (behind c cs).length ≤ cs.length := by
  have := length_dropWhile_le (· != c) cs
  simp only [behind, List.length_drop]
  omega

theorem length_afterWord?_le {ws cs rest : List Char} (h : afterWord? ws cs = some rest) :
    rest.length ≤ cs.length := by
  fun_induction afterWord? ws cs with
  | case1 => simp at h; subst h; exact Nat.le_refl _
  | case2 w ws c cs hc ih => exact Nat.le_succ_of_le (ih h)
  | case3 => simp at h
  | case4 => simp at h

end WidgetMarkup.Html
