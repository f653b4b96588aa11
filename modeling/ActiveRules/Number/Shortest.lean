import ActiveRules.Number.Binary
import ActiveRules.Text.Numeral

/-!
# Decimal notation of binary numbers

A finite binary number is written with the fewest significant digits that read back as the same
number; among those decimals it is the nearest to the number, and of two equally near ones the
larger.

## Main definitions

* `Decimal`: a natural number times a power of ten.
* `Decimal.shortest`: the decimal that stands for a finite rank.
* `Decimal.positional`, `Decimal.scientific`: its two notations.
* `Binary.ofNumeral`: reading a positional numeral, correctly rounded for any number of digits.

## Design notes

Every finite rank has a terminating decimal expansion, because a power of two divides the same
power of ten.  `Decimal.shortest` drops trailing digits from that expansion: for one digit kept,
then two, and so on, it tries the two neighbours on the grid and asks the rounding that reads
numerals whether they come back.  So a decimal it answers reads back by construction.
-/

namespace ActiveRules

/-- A natural number times a power of ten. -/
structure Decimal where
  coefficient : Nat
  exponent : Int
deriving DecidableEq

namespace Decimal

/-- No two numbers of a format in use share their first seventeen significant digits. -/
def mostDigits : Nat := 17

/-- Does `count` parts out of ten to the power of the format's least exponent round to `rank`? -/
def readsBack (F : Format) (rank count : Nat) : Bool :=
  F.rankNear (count * Nat.pow 2 F.leastExponent) (Nat.pow 10 F.leastExponent) == rank

/-- The shorter decimal left when `dropped` digits at the end of the full expansion of `rank` are
rounded away: the nearer neighbour on the grid that reads back, the upper one if both are
equally near.  The expansion counts ten to the power of minus the format's least exponent. -/
def shorten? (F : Format) (rank expansion dropped : Nat) : Option Nat :=
  let grid := Nat.pow 10 dropped
  let below := expansion / grid
  let order :=
    if 2 * (expansion % grid) < grid then [below, below + 1] else [below + 1, below]
  order.find? fun candidate => readsBack F rank (candidate * grid)

/-- Trailing zeros of the coefficient moved into the exponent; zero itself has exponent zero. -/
def normalize (coefficient : Nat) (exponent : Int) : Decimal :=
  if coefficient = 0 then ⟨0, 0⟩
  else if coefficient % 10 = 0 then normalize (coefficient / 10) (exponent + 1)
  else ⟨coefficient, exponent⟩
termination_by coefficient
decreasing_by omega

/-- The decimal with the fewest digits that reads back as a finite rank of the format.  Were none
short enough, it would be the full expansion. -/
def shortest (F : Format) (rank : Nat) : Decimal :=
  let expansion := F.magnitude rank * Nat.pow 5 F.leastExponent
  let length := (Numeral.digits expansion).length
  let dropped := (List.range mostDigits).map fun kept => length - (kept + 1)
  let (coefficient, count) :=
    (dropped.findSome? fun count =>
      (shorten? F rank expansion count).map (·, count)).getD (expansion, 0)
  normalize coefficient (count - F.leastExponent)

/-- Positional notation, always with a point and a digit after it. -/
def positional : Decimal → List Char
  | ⟨coefficient, .ofNat zeros⟩ =>
    Numeral.digits coefficient ++ List.replicate zeros '0' ++ ['.', '0']
  | ⟨coefficient, .negSucc k⟩ =>
    let places := k + 1
    Numeral.digits (coefficient / Nat.pow 10 places) ++
      '.' :: (Numeral.digits (coefficient % Nat.pow 10 places)).leftpad places '0'

/-- The power of ten that the first digit counts. -/
def leadingExponent (d : Decimal) : Int :=
  d.exponent + ((Numeral.digits d.coefficient).length - 1 : Nat)

/-- Scientific notation, with a point only if a digit follows it. -/
def scientific (d : Decimal) : List Char :=
  let mantissa := match Numeral.digits d.coefficient with
    | first :: next :: rest => first :: '.' :: next :: rest
    | single => single
  mantissa ++ 'e' :: Numeral.signed d.leadingExponent

end Decimal

/-- The number nearest to the numeral with these digits before and after the point. -/
def Binary.ofNumeral (F : Format) (negative : Bool) (whole fraction : List Char) : Binary F :=
  .ofRatio F negative (Numeral.value (whole ++ fraction)) (Nat.pow 10 fraction.length)

end ActiveRules
