/-
  Control characters in plain sight.

  A terminal may obey control characters in what it shows.  `escape` writes out those
  that start or make up control sequences: escape, bell, backspace, form feed and
  delete as `\x1b` and the like, and the controls from U+0080 to U+009F by their code
  between braces.  Line ends, tabs and all other characters stay as they are.
-/
namespace WidgetMarkup

/-- Writes a number below 256 with two hexadecimal digits. -/
def hexByte (n : Nat) : List Char :=
  [Nat.digitChar (n / 16), Nat.digitChar (n % 16)]

/-- The characters that stand for one character. -/
def escapeChar (c : Char) : List Char :=
  if ['\x07', '\x08', '\x0c', '\x1b', '\x7f'].contains c then '\\' :: 'x' :: hexByte c.toNat
  else if 0x80 ≤ c.toNat && c.toNat ≤ 0x9F then
    '\\' :: 'u' :: '\x7b' :: hexByte c.toNat ++ ['\x7d']
  else [c]

/-- The text with its control characters written out. -/
def escape (s : String) : String :=
  String.ofList (s.toList.flatMap escapeChar)

end WidgetMarkup
