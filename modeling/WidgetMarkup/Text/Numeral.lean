/-
  Decimal numerals of 64-bit integers.

  A numeral is an optional sign followed by one or more digits; leading zeros are
  allowed.  `readInt?` gives the integer a numeral denotes, of whatever size, and
  `isInt64` accepts the numerals whose value fits into 64 bits.
-/
namespace WidgetMarkup.Numeral

/-- The value of a list of decimal digits, most significant first. -/
def valueOf (digits : List Char) : Nat :=
  digits.foldl (fun n c => 10 * n + (c.toNat - '0'.toNat)) 0

/-- Reads one or more decimal digits. -/
def readNat? (cs : List Char) : Option Nat :=
  if cs ≠ [] ∧ cs.all Char.isDigit then some (valueOf cs) else none

/-- Reads an optionally signed numeral. -/
def readInt? : List Char → Option Int
  | '-' :: cs => (readNat? cs).map fun n => -(n : Int)
  | '+' :: cs => (readNat? cs).map fun n => (n : Int)
  | cs => (readNat? cs).map fun n => (n : Int)

/-- The values that fit into 64 bits, from -2^63 to 2^63 - 1. -/
def FitsInt64 (n : Int) : Prop :=
  -9223372036854775808 ≤ n ∧ n ≤ 9223372036854775807

instance (n : Int) : Decidable (FitsInt64 n) :=
  inferInstanceAs (Decidable (_ ∧ _))

/-- Whether the characters are a numeral whose value fits into 64 bits. -/
def isInt64 (cs : List Char) : Bool :=
  match readInt? cs with
  | some n => decide (FitsInt64 n)
  | none => false

end WidgetMarkup.Numeral
