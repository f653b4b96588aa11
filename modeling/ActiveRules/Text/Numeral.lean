/-!
# Decimal numerals

Natural numbers and integers as decimal digits, and back.

## Main definitions

* `Numeral.digits`: the digits of a natural number, without leading zeros.
* `Numeral.value`: the natural number that a run of digits spells, leading zeros allowed.
* `Numeral.signed`: an integer, with a minus sign if it is negative.
-/

namespace ActiveRules.Numeral

/-- The decimal digit that stands for a number below ten. -/
def digit (n : Nat) : Char := Char.ofNat (48 + n)

/-- The number that a decimal digit stands for. -/
def digitValue (c : Char) : Nat := c.toNat - 48

/-- The decimal digits of a natural number, the most significant first. -/
def digits (n : Nat) : List Char :=
  if n < 10 then [digit n] else digits (n / 10) ++ [digit (n % 10)]

/-- The natural number that a run of decimal digits spells. -/
def value (numeral : List Char) : Nat :=
  numeral.foldl (fun n c => 10 * n + digitValue c) 0

/-- An integer as a numeral with a minus sign where one is due. -/
def signed (i : Int) : List Char :=
  if i < 0 then '-' :: digits i.natAbs else digits i.natAbs

/-- A natural number as text. -/
def text (n : Nat) : String := String.ofList (digits n)

end ActiveRules.Numeral
