/-
  Literals of the Yuck language.

  * `Literal.infer` classifies a raw text: 64-bit integers, expressions in braces,
    calls in parentheses, lists in brackets and the two truth values are taken as
    they stand; every other text is a string.
  * `Literal.text` writes a literal.  Strings are put between double quotes and
    nothing in them is escaped.
-/
import WidgetMarkup.Text.Numeral

namespace WidgetMarkup.Yuck

/-- A literal of the Yuck language. -/
inductive Literal where
  /-- The numeral of an integer. -/
  | int (numeral : String)
  /-- An expression, braces included. -/
  | expr (source : String)
  /-- A call, parentheses included. -/
  | call (source : String)
  /-- The inside of a list, without its brackets. -/
  | list (inside : String)
  | bool (value : Bool)
  /-- The content of a string, without its quotes. -/
  | str (content : String)
deriving DecidableEq

/-- What stands between an opening character at the start and a closing one at the
    end of a text of at least two characters. -/
def enclosed? (opening closing : Char) : List Char → Option (List Char)
  | [] => none
  | c :: cs => if c = opening ∧ cs.getLast? = some closing then some cs.dropLast else none

/-- Reads a truth value; the case of the letters does not matter. -/
def truth? (cs : List Char) : Option Bool :=
  let word := cs.map Char.toLower
  if word = "true".toList then some true
  else if word = "false".toList then some false
  else none

namespace Literal

/-- The literal that a raw text stands for. -/
def infer (raw : String) : Literal :=
  let cs := raw.toList
  if Numeral.isInt64 cs then .int raw
  else if (enclosed? '\x7b' '\x7d' cs).isSome then .expr raw
  else if (enclosed? '(' ')' cs).isSome then .call raw
  else match enclosed? '[' ']' cs with
    | some inside => .list (String.ofList inside)
    | none => match truth? cs with
      | some b => .bool b
      | none => .str raw

/-- The raw text as a string, whatever it looks like. -/
def quoted (raw : String) : Literal :=
  .str raw

/-- The text of a literal in Yuck source. -/
def text : Literal → String
  | .int numeral => numeral
  | .expr source => source
  | .call source => source
  | .list inside => inside
  | .bool true => "true"
  | .bool false => "false"
  | .str content => "\"" ++ content ++ "\""

end Literal

end WidgetMarkup.Yuck
