/-
  Tokens: the units of HTML text.

  Runs of white space are kept apart from other text, because many rules of tree
  construction treat them differently.  A comment is a token without content.
-/
import WidgetMarkup.Html.Name

namespace WidgetMarkup.Html

/-- A tag that opens an element. -/
structure Tag where
  name : String
  /-- The attributes in source order, no two with the same key. -/
  attrs : List Attribute := []
  selfClosing : Bool := false

/-- A doctype declaration. -/
structure Doctype where
  name : String := ""
  publicId : Option String := none
  systemId : Option String := none
  /-- Whether the declaration is malformed. -/
  broken : Bool := false

/-- A unit of HTML text. -/
inductive Token where
  | startTag (tag : Tag)
  | endTag (name : String)
  /-- A run of white space. -/
  | space (cs : List Char)
  /-- A run of characters other than white space and NUL. -/
  | text (cs : List Char)
  /-- The character NUL. -/
  | nul
  | comment
  | doctype (d : Doctype)
  /-- The place of a lexical fault. -/
  | fault
  /-- The end of the input. -/
  | finish

/-- The white space of HTML: tab, line feed, form feed, carriage return and space. -/
def isSpace (c : Char) : Bool :=
  c == ' ' || c == '\t' || c == '\n' || c == '\x0c' || c == '\r'

/-- Puts a character before tokens, joining it to the run that it belongs to. -/
def Token.consChar (c : Char) (tokens : List Token) : List Token :=
  if c == '\x00' then .nul :: tokens
  else if isSpace c then
    match tokens with
    | .space cs :: rest => .space (c :: cs) :: rest
    | _ => .space [c] :: tokens
  else
    match tokens with
    | .text cs :: rest => .text (c :: cs) :: rest
    | _ => .text [c] :: tokens

/-- The tokens of characters, in which `none` marks a fault. -/
def Token.ofChars (cs : List (Option Char)) : List Token :=
  cs.foldr (fun c tokens => match c with
    | some c => consChar c tokens
    | none => .fault :: tokens) []

end WidgetMarkup.Html
