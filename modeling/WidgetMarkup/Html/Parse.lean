/-
  From HTML text to its tree.

  Tokens are read one lexeme at a time and each follows the rules of the present
  mode, or those for foreign content inside SVG and MathML.  Every text has a tree:
  missing tags are implied and misplaced ones are repaired.

  * `parse` gives the tree of a text.
  * `lineEnds` counts the line ends that are met on the way.
-/
import WidgetMarkup.Html.Doctype
import WidgetMarkup.Html.Rules.Foreign

namespace WidgetMarkup.Html

/-! ## Tokens -/

/-- Applies the rules until a token is dealt with, at most `n` times. -/
def applyRules (t : Token) : Nat → Build Unit
  | 0 => pure ()
  | n + 1 => do
    let b ← get
    let verdict ← match b.opened with
      | e :: _ => if e.name.isForeignFor t then foreignRules e.name.vocabulary t else rules b.mode t
      | [] => rules b.mode t
    match verdict with
    | .done => pure ()
    | .again mode =>
      setMode mode
      applyRules t n

/-- Applies the rules until a token is dealt with.  Each time but for a few a mode is
    left for good or an element is closed. -/
def applyToken (t : Token) : Build Unit := do
  applyRules t (4 * (← get).opened.length + 16)

/-- Adds the doctype of the document. -/
def addDoctype (d : Doctype) : Build Unit := do
  let id ← create .doctype
  modifyDraft (·.append Draft.root id)
  modify fun b => { b with oldRules := d.isOld, mode := .beforeHtml }

/-- Takes a line feed off the start of white space. -/
def withoutLineFeed : Token → Option Token
  | .space ('\n' :: []) => none
  | .space ('\n' :: cs) => some (.space cs)
  | t => some t

/-- Processes one token. -/
def processToken (t : Token) : Build Unit := do
  let skip := (← get).skipLineFeed
  modify fun b => { b with skipLineFeed := false }
  match t with
  | .fault => pure ()
  | .doctype d => if (← get).mode == .initial then addDoctype d
  | .startTag _ | .endTag _ =>
    modify fun b => { b with reading := .data }
    applyToken t
  | t =>
    match if skip then withoutLineFeed t else some t with
    | some t => applyToken t
    | none => pure ()

/-- Processes tokens one after the other. -/
def processAll : List Token → Build Unit
  | [] => pure ()
  | t :: ts => do
    processToken t
    processAll ts

/-! ## Documents -/

/-- Whether the current element is foreign. -/
def Builder.isForeign (b : Builder) : Bool :=
  match b.opened with
  | e :: _ => e.name.vocabulary != .html
  | [] => false

/-- What is left to read behind a lexeme.  Reading starts anew behind a script, so a byte
    order mark is dropped there too. -/
def Builder.ahead (b : Builder) (cs : List Char) : List Char :=
  if b.afterScript then dropByteOrderMark cs else cs

theorem Builder.length_ahead_le (b : Builder) (cs : List Char) :
    (b.ahead cs).length ≤ cs.length := by
  unfold ahead
  split
  · exact length_dropByteOrderMark_le cs
  · exact Nat.le_refl _

/-- Reads a text to its end. -/
def Builder.read (b : Builder) (cs : List Char) : Builder :=
  match cs with
  | [] => (processToken .finish b).2
  | c :: cs =>
    let read := lexeme b.reading b.isForeign c cs
    let valueGaps := b.valueGaps + lexemeGaps b.reading c cs
    let b := (processAll read.1 { b with afterScript := false, valueGaps }).2
    Builder.read b (b.ahead read.2)
termination_by cs.length
decreasing_by
  exact Nat.lt_succ_of_le
    (Nat.le_trans (Builder.length_ahead_le _ _) (lexeme_length_le _ _ _ _))

/-- The tree of an HTML text. -/
def parse (s : String) : List Tree :=
  (({} : Builder).read (inputChars s)).draft.toTrees

/-- The number of line ends that are read one by one: white space between an equals sign
    and an attribute value is skipped as a whole. -/
def lineEnds (s : String) : Nat :=
  (inputChars s).count '\n' - (({} : Builder).read (inputChars s)).valueGaps

end WidgetMarkup.Html
