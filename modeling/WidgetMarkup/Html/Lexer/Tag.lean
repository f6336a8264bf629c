/-
  Reading tags.

  * `tag?` reads a tag from its name on: the name, attributes with or without values,
    and whether the tag closes itself.  A tag that the input breaks off is dropped.
  * `tagGaps` counts the line ends that a tag, complete or not, has between an equals
    sign and the value behind it.
-/
import WidgetMarkup.Html.Characters

namespace WidgetMarkup.Html

/-! ## Attributes -/

/-- Whether an attribute name ends before this character. -/
def endsKey (c : Char) : Bool :=
  endsTagName c || c == '='

/-- Reads an attribute value: its characters, and what stands behind it. -/
def attributeValue : List Char → List Char × List Char
  | '"' :: cs => (cs.takeWhile (· != '"'), behind '"' cs)
  | '\x27' :: cs => (cs.takeWhile (· != '\x27'), behind '\x27' cs)
  | cs =>
    let ends := fun c => isSpace c || c == '>'
    (cs.takeWhile (!ends ·), cs.dropWhile (!ends ·))

/-- Reads the value behind an attribute name, if an equals sign follows. -/
def optionalValue (cs : List Char) : List Char × List Char :=
  match cs.dropWhile isSpace with
  | '=' :: rest => attributeValue (rest.dropWhile isSpace)
  | _ => ([], cs)

/-- Adds an attribute unless there is one with the same key. -/
def addAttribute (attrs : List Attribute) (a : Attribute) : List Attribute :=
  if attrs.any (·.key == a.key) then attrs else attrs ++ [a]

theorem length_attributeValue_le (cs : List Char) :
    (attributeValue cs).2.length ≤ cs.length := by
  unfold attributeValue
  split
  · exact Nat.le_succ_of_le (length_behind_le _ _)
  · exact Nat.le_succ_of_le (length_behind_le _ _)
  · exact length_dropWhile_le _ _

theorem length_optionalValue_le (cs : List Char) :
    (optionalValue cs).2.length ≤ cs.length := by
  unfold optionalValue
  split
  · next rest h =>
    have h₁ := length_attributeValue_le (rest.dropWhile isSpace)
    have h₂ := length_dropWhile_le isSpace rest
    have h₃ := length_dropWhile_le isSpace cs
    rw [h, List.length_cons] at h₃
    omega
  · exact Nat.le_refl _

/-- Reads attributes up to the end of their tag: the attributes, whether the tag closes
    itself, and what stands behind it.  A tag that the input breaks off is no tag. -/
def attributes? (attrs : List Attribute) (cs : List Char) :
    Option (List Attribute × Bool × List Char) :=
  match cs with
  | [] => none
  | '>' :: cs => some (attrs, false, cs)
  | '/' :: '>' :: cs => some (attrs, true, cs)
  | c :: cs =>
    if isSpace c || c == '/' then attributes? attrs cs
    else
      let key := nameOf (c :: cs.takeWhile (!endsKey ·))
      let read := optionalValue (cs.dropWhile (!endsKey ·))
      let value := String.ofList (decodeValue (read.1.map replaceNul))
      attributes? (addAttribute attrs ⟨key, value⟩) read.2
termination_by cs.length
decreasing_by
  · simp
  · have h₁ := length_optionalValue_le (cs.dropWhile (!endsKey ·))
    have h₂ := length_dropWhile_le (!endsKey ·) cs
    simp only [List.length_cons]
    omega

theorem length_attributes?_le {attrs : List Attribute} {cs : List Char}
    {r : List Attribute × Bool × List Char} (h : attributes? attrs cs = some r) :
    r.2.2.length ≤ cs.length := by
  fun_induction attributes? attrs cs with
  | case1 => simp at h
  | case2 => simp at h; subst h; simp
  | case3 => simp at h; subst h; simp; omega
  | case4 attrs c cs _ _ _ ih => exact Nat.le_succ_of_le (ih h)
  | case5 attrs c cs _ _ _ key read value ih =>
    have h₁ : read.2.length ≤ _ := length_optionalValue_le (cs.dropWhile (!endsKey ·))
    have h₂ := length_dropWhile_le (!endsKey ·) cs
    have h₃ := ih h
    simp only [List.length_cons]
    omega

/-! ## Tags -/

/-- Reads a tag from its name on. -/
def tag? (cs : List Char) : Option (Tag × List Char) :=
  match attributes? [] (cs.dropWhile (!endsTagName ·)) with
  | none => none
  | some (attrs, selfClosing, rest) =>
    some (⟨nameOf (cs.takeWhile (!endsTagName ·)), attrs, selfClosing⟩, rest)

theorem length_tag?_le {cs : List Char} {r : Tag × List Char} (h : tag? cs = some r) :
    r.2.length ≤ cs.length := by
  unfold tag? at h
  split at h
  · simp at h
  · next attrs selfClosing rest ha =>
    have h₁ := length_attributes?_le ha
    have h₂ := length_dropWhile_le (!endsTagName ·) cs
    simp only [Option.some.injEq] at h
    subst h
    exact Nat.le_trans h₁ h₂

/-! ## Line ends before values -/

/-- The number of line ends between an equals sign and the value behind it, if an equals
    sign follows. -/
def valueGap (cs : List Char) : Nat :=
  match cs.dropWhile isSpace with
  | '=' :: rest => (rest.takeWhile isSpace).count '\n'
  | _ => 0

/-- The number of line ends before the values of the attributes of a tag. -/
def attributeGaps (cs : List Char) : Nat :=
  match cs with
  | [] => 0
  | '>' :: _ => 0
  | c :: cs =>
    if isSpace c || c == '/' then attributeGaps cs
    else
      let behindKey := cs.dropWhile (!endsKey ·)
      valueGap behindKey + attributeGaps (optionalValue behindKey).2
termination_by cs.length
decreasing_by
  · simp
  · have h₁ := length_optionalValue_le (cs.dropWhile (!endsKey ·))
    have h₂ := length_dropWhile_le (!endsKey ·) cs
    simp only [List.length_cons]
    omega

/-- The number of line ends before the values in a tag, read from its name on. -/
def tagGaps (cs : List Char) : Nat :=
  attributeGaps (cs.dropWhile (!endsTagName ·))

end WidgetMarkup.Html
