/-
  From characters to tokens.

  `lexeme` reads the tokens at the start of a text: a tag, a comment, a doctype, or
  a run of text up to the next `<`.  How a text is read depends on the element it
  stands in (`Reading`), which tree construction decides tag by tag.

  * `lexeme_length_le`: a lexeme takes its first character and perhaps more, so
    reading a text lexeme by lexeme comes to an end.
-/
import WidgetMarkup.Html.Lexer.Declaration
import WidgetMarkup.Html.Lexer.RawText
import WidgetMarkup.Html.Lexer.Tag

namespace WidgetMarkup.Html

/-- How the text at hand is to be read. -/
inductive Reading where
  /-- Markup. -/
  | data
  /-- Text with references, up to the end tag of this name. -/
  | rcdata (name : String)
  /-- Text as it stands, up to the end tag of this name. -/
  | rawtext (name : String)
  /-- The text of a script. -/
  | script
  /-- Text as it stands, up to the end. -/
  | plaintext

/-! ## Lexemes -/

/-- Reads markup from behind its `<` on. -/
def markup (foreign : Bool) (cs : List Char) : List Token × List Char :=
  match cs with
  | '!' :: rest => declaration foreign rest
  | '?' :: rest => ([.comment], behind '>' rest)
  | '/' :: [] => ([.text ['<', '/']], [])
  | '/' :: '>' :: rest => ([.fault], rest)
  | '/' :: c :: rest =>
    if c.isAlpha then
      match tag? (c :: rest) with
      | some (tag, rest) => ([.endTag tag.name], rest)
      | none => ([], [])
    else ([.comment], behind '>' (c :: rest))
  | c :: rest =>
    if c.isAlpha then
      match tag? (c :: rest) with
      | some (tag, rest) => ([.startTag tag], rest)
      | none => ([], [])
    else ([.text ['<']], c :: rest)
  | [] => ([.text ['<']], [])

/-- Reads raw text of `n` characters, or if there is none the end tag behind it. -/
def rawLexeme (n : Nat) (tokens : List Char → List Token) (c : Char) (cs : List Char) :
    List Token × List Char :=
  match n with
  | 0 => markup false cs
  | n + 1 => (tokens (c :: cs.take n), cs.drop n)

/-- The tokens of text without references, NUL replaced. -/
def rawTokens (cs : List Char) : List Token :=
  Token.ofChars (cs.map fun c => some (replaceNul c))

/-- Reads the tokens at the start of a text that starts with the character `c`: the
    tokens, and what stands behind them. -/
def lexeme (reading : Reading) (foreign : Bool) (c : Char) (cs : List Char) :
    List Token × List Char :=
  match reading with
  | .data =>
    if c == '<' then markup foreign cs
    else (Token.ofChars (decode (c :: cs.takeWhile (· != '<'))), cs.dropWhile (· != '<'))
  | .rcdata name =>
    rawLexeme (rawLength name 0 (c :: cs)) (fun cs => Token.ofChars (decode (cs.map replaceNul))) c cs
  | .rawtext name => rawLexeme (rawLength name 0 (c :: cs)) rawTokens c cs
  | .script => rawLexeme (scriptLength .none 0 0 (c :: cs)) rawTokens c cs
  | .plaintext => (rawTokens (c :: cs), [])

/-! ## Line ends before values -/

/-- The number of line ends before the values in markup, read from behind its `<` on. -/
def markupGaps : List Char → Nat
  | '/' :: cs => if cs.head?.any Char.isAlpha then tagGaps cs else 0
  | cs => if cs.head?.any Char.isAlpha then tagGaps cs else 0

/-- The number of line ends before the values in the lexeme at the start of a text that
    starts with the character `c`. -/
def lexemeGaps (reading : Reading) (c : Char) (cs : List Char) : Nat :=
  let startsMarkup := match reading with
    | .data => c == '<'
    | .rcdata name | .rawtext name => rawLength name 0 (c :: cs) == 0
    | .script => scriptLength .none 0 0 (c :: cs) == 0
    | .plaintext => false
  if startsMarkup then markupGaps cs else 0

/-! ## Lexemes take characters -/

theorem length_markup_le (foreign : Bool) (cs : List Char) :
    (markup foreign cs).2.length ≤ cs.length := by
  unfold markup
  split
  · exact Nat.le_succ_of_le (length_declaration_le _ _)
  · exact Nat.le_succ_of_le (length_behind_le _ _)
  · simp
  · simp; omega
  · split
    · split
      · next h => exact Nat.le_succ_of_le (length_tag?_le h)
      · simp
    · exact Nat.le_succ_of_le (length_behind_le _ _)
  · split
    · split
      · next h => exact length_tag?_le h
      · simp
    · simp
  · simp

theorem length_rawLexeme_le (n : Nat) (tokens : List Char → List Token) (c : Char)
    (cs : List Char) : (rawLexeme n tokens c cs).2.length ≤ cs.length := by
  unfold rawLexeme
  split
  · exact length_markup_le false cs
  · simp

/-- **A lexeme takes its first character and perhaps more.** -/
theorem lexeme_length_le (reading : Reading) (foreign : Bool) (c : Char) (cs : List Char) :
    (lexeme reading foreign c cs).2.length ≤ cs.length := by
  unfold lexeme
  split
  · split
    · exact length_markup_le foreign cs
    · exact length_dropWhile_le _ _
  · exact length_rawLexeme_le _ _ _ _
  · exact length_rawLexeme_le _ _ _ _
  · exact length_rawLexeme_le _ _ _ _
  · simp

end WidgetMarkup.Html
