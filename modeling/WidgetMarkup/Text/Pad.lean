/-
  Fitting a text into a column.

  A `Column` gives the least and the greatest number of characters; `Column.fit`
  cuts a text that is too long at its end and fills up one that is too short on
  the side its alignment leaves free.
-/
namespace WidgetMarkup

/-- Where a text stands in a column that is wider than the text. -/
inductive Alignment where
  | left
  | right
  /-- An odd fill character goes to the right. -/
  | center
deriving DecidableEq

/-- The column a text is written into. -/
structure Column where
  /-- The least number of characters. -/
  least : Nat := 0
  /-- The greatest number of characters of the text itself, if bounded. -/
  greatest : Option Nat := none
  alignment : Alignment := .left
  /-- The character that fills up the column. -/
  fill : Char := ' '

/-- How many of `n` fill characters stand before the text. -/
def Alignment.before (n : Nat) : Alignment → Nat
  | .left => 0
  | .right => n
  | .center => n / 2

/-- Cuts the text to the greatest width, then fills it up to the least one. -/
def Column.fit (column : Column) (s : String) : String :=
  let kept := match column.greatest with
    | none => s.toList
    | some n => s.toList.take n
  let missing := column.least - kept.length
  let before := column.alignment.before missing
  String.ofList
    (List.replicate before column.fill ++ kept ++ List.replicate (missing - before) column.fill)

end WidgetMarkup
