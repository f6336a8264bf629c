/-
  Named characters.

  A character reference `&name;` names a character, or two of which the second
  combines with the first.  The names of the markup characters and of the
  characters from the no-break space to U+00FF may also stand without their
  semicolon; all other names need it.

  * `bareEntity?` looks up a name that stands without a semicolon.
  * `entity?` looks up a name that a semicolon follows.
-/
import WidgetMarkup.Html.EntityTable

namespace WidgetMarkup.Html

/-! ## Digits -/

/-- Whether the character is a hexadecimal digit. -/
def isHexDigit (c : Char) : Bool :=
  c.isDigit || ('a' ≤ c && c ≤ 'f') || ('A' ≤ c && c ≤ 'F')

/-- The value of a hexadecimal digit. -/
def hexDigitValue (c : Char) : Nat :=
  if c.isDigit then c.toNat - '0'.toNat else c.toLower.toNat - 'a'.toNat + 10

/-- The number that digits of a base write. -/
def valueOfDigits (base : Nat) (digits : List Char) : Nat :=
  digits.foldl (fun n c => base * n + hexDigitValue c) 0

/-! ## Names that may stand without a semicolon -/

/-- The names of the characters U+00A0 to U+00FF, in order. -/
def latinNames : List String :=
  ["nbsp", "iexcl", "cent", "pound", "curren", "yen", "brvbar", "sect", "uml", "copy", "ordf",
   "laquo", "not", "shy", "reg", "macr", "deg", "plusmn", "sup2", "sup3", "acute", "micro", "para",
   "middot", "cedil", "sup1", "ordm", "raquo", "frac14", "frac12", "frac34", "iquest", "Agrave",
   "Aacute", "Acirc", "Atilde", "Auml", "Aring", "AElig", "Ccedil", "Egrave", "Eacute", "Ecirc",
   "Euml", "Igrave", "Iacute", "Icirc", "Iuml", "ETH", "Ntilde", "Ograve", "Oacute", "Ocirc",
   "Otilde", "Ouml", "times", "Oslash", "Ugrave", "Uacute", "Ucirc", "Uuml", "Yacute", "THORN",
   "szlig", "agrave", "aacute", "acirc", "atilde", "auml", "aring", "aelig", "ccedil", "egrave",
   "eacute", "ecirc", "euml", "igrave", "iacute", "icirc", "iuml", "eth", "ntilde", "ograve",
   "oacute", "ocirc", "otilde", "ouml", "divide", "oslash", "ugrave", "uacute", "ucirc", "uuml",
   "yacute", "thorn", "yuml"]

/-- The names of the markup characters and two names in upper case. -/
def markupNames : List (String × Nat) :=
  [("amp", 0x26), ("AMP", 0x26), ("lt", 0x3C), ("LT", 0x3C), ("gt", 0x3E), ("GT", 0x3E),
   ("quot", 0x22), ("QUOT", 0x22), ("COPY", 0xA9), ("REG", 0xAE)]

/-- The code of a name that may stand without a semicolon. -/
def bareEntity? (name : String) : Option Nat :=
  (markupNames.lookup name).or ((latinNames.idxOf? name).map (0xA0 + ·))

/-- The greatest length of a name that may stand without a semicolon. -/
def longestBareName : Nat := 6

/-! ## Names that need a semicolon -/

/-- The characters of codes that are written in hexadecimal with plus signs between them. -/
def charsOfCodes (codes : List Char) : List Char :=
  (List.splitOn '+' codes).map fun digits => Char.ofNat (valueOfDigits 16 digits)

/-- Reads an entry: a name, a colon and the codes of its characters. -/
def closedEntry (entry : List Char) : String × List Char :=
  let name := entry.takeWhile (· != ':')
  (String.ofList name, charsOfCodes (entry.drop (name.length + 1)))

/-- The names that need a semicolon, with their characters. -/
def closedNames : List (String × List Char) :=
  closedNameRows.flatMap fun row => (List.splitOn ' ' row.toList).map closedEntry

/-- The characters of a name that is followed by a semicolon. -/
def entity? (name : String) : Option (List Char) :=
  match bareEntity? name with
  | some code => some [Char.ofNat code]
  | none => closedNames.lookup name

end WidgetMarkup.Html
