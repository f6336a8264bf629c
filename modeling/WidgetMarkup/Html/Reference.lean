/-
  Character references.

  A reference starts with an ampersand and gives a character by its code or by
  its name: `&#65;`, `&#x41;`, `&amp;`.  A text keeps its length in characters
  except where a reference stands, so a reference is described by its `width`, the
  number of characters it takes after the ampersand, and by the characters it
  stands for.

  * `reference?` reads the reference behind an ampersand, if there is one.
  * `decode` replaces the references of a text.
-/
import WidgetMarkup.Html.Entity

namespace WidgetMarkup.Html

/-- A character reference. -/
structure Reference where
  /-- The characters it stands for. -/
  chars : List Char
  /-- The number of characters it takes after the ampersand. -/
  width : Nat
  /-- Whether a semicolon ends it. -/
  closed : Bool

/-- The character that stands for unreadable ones. -/
def replacementChar : Char := '\uFFFD'

/-! ## References by code -/

/-- The characters that the codes 0x80 to 0x9F stand for; those missing from the list
    stand for themselves. -/
def controlCodes : List (Nat × Nat) :=
  [(0x80, 0x20AC), (0x82, 0x201A), (0x83, 0x0192), (0x84, 0x201E), (0x85, 0x2026), (0x86, 0x2020),
   (0x87, 0x2021), (0x88, 0x02C6), (0x89, 0x2030), (0x8A, 0x0160), (0x8B, 0x2039), (0x8C, 0x0152),
   (0x8E, 0x017D), (0x91, 0x2018), (0x92, 0x2019), (0x93, 0x201C), (0x94, 0x201D), (0x95, 0x2022),
   (0x96, 0x2013), (0x97, 0x2014), (0x98, 0x02DC), (0x99, 0x2122), (0x9A, 0x0161), (0x9B, 0x203A),
   (0x9C, 0x0153), (0x9E, 0x017E), (0x9F, 0x0178)]

/-- The character of a code.  Zero, surrogates and codes beyond Unicode give the
    replacement character. -/
def charOfCode (code : Nat) : Char :=
  if code == 0 || 0x10FFFF < code || (0xD800 ≤ code && code ≤ 0xDFFF) then replacementChar
  else Char.ofNat ((controlCodes.lookup code).getD code)

/-- The reference given by digits of a base, `marks` characters behind the ampersand. -/
def codeReference? (base marks : Nat) (isDigit : Char → Bool) (cs : List Char) :
    Option Reference :=
  let digits := cs.takeWhile isDigit
  if digits.isEmpty then none
  else
    let closed := (cs.dropWhile isDigit).head? == some ';'
    some ⟨[charOfCode (valueOfDigits base digits)], marks + digits.length + closed.toNat, closed⟩

/-! ## References by name -/

/-- The longest name at the start of a word that may stand without a semicolon, with
    its code; at most `n` characters of the word are tried. -/
def longestBare? (word : List Char) : Nat → Option (Nat × Nat)
  | 0 => none
  | n + 1 =>
    if n < word.length then
      match bareEntity? (String.ofList (word.take (n + 1))) with
      | some code => some (n + 1, code)
      | none => longestBare? word n
    else longestBare? word n

/-- The reference given by a name.  Inside an attribute value, a name without its
    semicolon is no reference if a letter, a digit or an equals sign follows. -/
def nameReference? (inAttribute : Bool) (cs : List Char) : Option Reference :=
  let word := cs.takeWhile Char.isAlphanum
  let next := (cs.drop word.length).head?
  match if next == some ';' then entity? (String.ofList word) else none with
  | some chars => some ⟨chars, word.length + 1, true⟩
  | none =>
    match longestBare? word longestBareName with
    | none => none
    | some (n, code) =>
      if inAttribute && (n < word.length || next == some '=') then none
      else some ⟨[Char.ofNat code], n, false⟩

/-! ## References in a text -/

/-- The reference behind an ampersand, if there is one. -/
def reference? (inAttribute : Bool) : List Char → Option Reference
  | '#' :: 'x' :: cs => codeReference? 16 2 isHexDigit cs
  | '#' :: 'X' :: cs => codeReference? 16 2 isHexDigit cs
  | '#' :: cs => codeReference? 10 1 Char.isDigit cs
  | cs => nameReference? inAttribute cs

/-- The characters of a text with its references replaced.  A reference without a
    semicolon is preceded by `none`, the mark of a fault.  The first `skip`
    characters belong to a reference that is replaced already. -/
def decodeFrom (inAttribute : Bool) (skip : Nat) : List Char → List (Option Char)
  | [] => []
  | c :: cs =>
    match skip with
    | n + 1 => decodeFrom inAttribute n cs
    | 0 =>
      match if c == '&' then reference? inAttribute cs else none with
      | none => some c :: decodeFrom inAttribute 0 cs
      | some ref =>
        let rest := ref.chars.map some ++ decodeFrom inAttribute ref.width cs
        if ref.closed then rest else none :: rest

/-- The characters of a text with its references replaced; a fault is marked by `none`. -/
def decode (cs : List Char) : List (Option Char) :=
  decodeFrom false 0 cs

/-- The characters of an attribute value with its references replaced. -/
def decodeValue (cs : List Char) : List Char :=
  (decodeFrom true 0 cs).filterMap id

end WidgetMarkup.Html
