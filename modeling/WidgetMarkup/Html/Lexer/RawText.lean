/-
  The extent of raw text.

  The text of some elements is not markup: it ends at the end tag of the element.
  The text of a script may hide end tags in a comment.
-/
import WidgetMarkup.Html.Characters

namespace WidgetMarkup.Html

/-- Whether an end tag of this name follows behind a `<`. -/
def closesElement (name : String) : List Char → Bool
  | '/' :: cs =>
    match afterWord? name.toList cs with
    | some (c :: _) => endsTagName c
    | _ => false
  | _ => false

/-- The number of characters before the end tag of an element, counted on from `n`. -/
def rawLength (name : String) (n : Nat) : List Char → Nat
  | [] => n
  | c :: cs => if c == '<' && closesElement name cs then n else rawLength name (n + 1) cs

/-! ## Scripts -/

/-- How far a script has hidden itself in a comment: not at all, in a comment, or in a
    script inside that comment, whose end tag does not end the outer one. -/
inductive Hiding where
  | none
  | comment
  | script
deriving DecidableEq

/-- Whether a complete script tag name follows. -/
def namesScript (cs : List Char) : Bool :=
  match afterWord? "script".toList cs with
  | some (c :: _) => endsTagName c
  | _ => false

/-- What a `<` in a script does to its hiding. -/
def Hiding.atMarkup : Hiding → List Char → Hiding
  | .none, '!' :: '-' :: '-' :: _ => .comment
  | .comment, cs => if namesScript cs then .script else .comment
  | .script, '/' :: cs => if namesScript cs then .comment else .script
  | state, _ => state

/-- The number of characters before the end tag of a script, counted on from `n`, of which
    the last `dashes` are dashes. -/
def scriptLength (state : Hiding) (dashes n : Nat) : List Char → Nat
  | [] => n
  | c :: cs =>
    if c == '<' then
      if state != .script && closesElement "script" cs then n
      else scriptLength (state.atMarkup cs) 0 (n + 1) cs
    else if c == '-' then scriptLength state (dashes + 1) (n + 1) cs
    else if c == '>' && 2 ≤ dashes then scriptLength .none 0 (n + 1) cs
    else scriptLength state 0 (n + 1) cs

end WidgetMarkup.Html
