/-!
# Binary floating-point numbers

The numbers of the rule language that have a fraction are single- and double-precision binary
numbers.  This module gives them as data that a proof can compute with: a number is its sign and
its *rank*, the position of its magnitude in the ascending list of all magnitudes of the format.
Rank `0` is zero, rank `1` the least positive number, and the last rank is infinity.

## Main definitions

* `Format`: how many bits a format gives to the fraction and to the exponent.
* `Binary F`: a number of the format `F`, or "not a number".
* `Format.magnitude`: the exact magnitude of a finite rank, counted in least positive numbers.
* `Binary.ofRatio`: the number nearest to a quotient of naturals, a half going to the even rank.
* `Binary.compare`: the order of numbers; a comparison with "not a number" has no answer.

## Design notes

Ranks coincide with the bit patterns of the interchange formats without their sign bit, which is
why `Binary.ofBits` only splits a natural number.  All arithmetic is exact arithmetic on naturals
followed by one rounding.
-/

namespace ActiveRules

/-- A binary interchange format, given by the widths of its two fields. -/
structure Format where
  fractionBits : Nat
  exponentBits : Nat

namespace Format

/-- The format of single-precision numbers. -/
def single : Format := ⟨23, 8⟩

/-- The format of double-precision numbers. -/
def double : Format := ⟨52, 11⟩

/-- The number of magnitudes that share one exponent. -/
def binade (F : Format) : Nat := Nat.pow 2 F.fractionBits

/-- The rank of infinity: every smaller rank is a finite magnitude. -/
def infinity (F : Format) : Nat := (Nat.pow 2 F.exponentBits - 1) * F.binade

/-- The least positive number of the format is two to the power of minus this. -/
def leastExponent (F : Format) : Nat :=
  Nat.pow 2 (F.exponentBits - 1) - 2 + F.fractionBits

/-- The magnitude of a finite rank, counted in least positive numbers of the format. -/
def magnitude (F : Format) (rank : Nat) : Nat :=
  if rank < F.binade then rank
  else (F.binade + rank % F.binade) * Nat.pow 2 (rank / F.binade - 1)

end Format

/-- The natural number nearest to `num / den`; a half goes to the even neighbour. -/
def roundQuotient (num den : Nat) : Nat :=
  let quotient := num / den
  let remainder := num % den
  if 2 * remainder < den then quotient
  else if den < 2 * remainder then quotient + 1
  else quotient + quotient % 2

/-- The rank nearest to the magnitude of `num / den` least positive numbers, were there no
largest finite one.  A carry out of the fraction moves on to the next exponent by itself. -/
def Format.rankNear (F : Format) (num den : Nat) : Nat :=
  let shift := (num / den).log2 - F.fractionBits
  shift * F.binade + roundQuotient num (den * Nat.pow 2 shift)

/-- A number of the format `F`: a signed rank, or "not a number". -/
inductive Binary (F : Format) where
  | nan
  | ordered (negative : Bool) (rank : Fin (F.infinity + 1))
deriving DecidableEq

/-- Single-precision numbers. -/
abbrev Single := Binary .single

/-- Double-precision numbers. -/
abbrev Double := Binary .double

namespace Binary

variable {F G : Format}

/-- The number with a sign and a rank; ranks beyond the format's largest give infinity. -/
def ofRank (F : Format) (negative : Bool) (rank : Nat) : Binary F :=
  .ordered negative ⟨min rank F.infinity, by omega⟩

/-- The number nearest to `num / den`, negated on demand. -/
def ofRatio (F : Format) (negative : Bool) (num den : Nat) : Binary F :=
  ofRank F negative (F.rankNear (num * Nat.pow 2 F.leastExponent) den)

/-- The number nearest to an integer. -/
def ofInt (F : Format) (i : Int) : Binary F :=
  ofRatio F (decide (i < 0)) i.natAbs 1

/-- The number that a bit pattern stands for, sign bit first, then exponent and fraction. -/
def ofBits (F : Format) (bits : Nat) : Binary F :=
  let signBit := Nat.pow 2 (F.exponentBits + F.fractionBits)
  let rank := bits % signBit
  if rank ≤ F.infinity then ofRank F (decide (signBit ≤ bits)) rank else .nan

/-- The bit pattern of a number; "not a number" has many and is given none. -/
def toBits? : Binary F → Option Nat
  | .nan => none
  | .ordered negative rank =>
    some (rank + if negative then Nat.pow 2 (F.exponentBits + F.fractionBits) else 0)

/-- Neither infinite nor "not a number". -/
def isFinite : Binary F → Bool
  | .nan => false
  | .ordered _ rank => decide (rank.val < F.infinity)

/-- The rank counted from zero in the direction of the sign, so that both zeros have rank `0`. -/
def signedRank (negative : Bool) (rank : Nat) : Int :=
  if negative then -(rank : Int) else rank

/-- How two numbers compare; `none` if one of them is "not a number".  Ranks are in the order of
the magnitudes, so no exact value is needed. -/
def compare : Binary F → Binary F → Option Ordering
  | .ordered s a, .ordered t b => some (Ord.compare (signedRank s a) (signedRank t b))
  | _, _ => none

/-- Numerical equality: the zeros are equal, and "not a number" differs even from itself. -/
instance : BEq (Binary F) := ⟨fun x y => x.compare y == some .eq⟩

/-- Numerical order, false as soon as one side is "not a number". -/
def isLess (x y : Binary F) : Bool := x.compare y == some .lt

/-- The same number in another format: exact if that has it, else the nearest that it has. -/
def convert (G : Format) : Binary F → Binary G
  | .nan => .nan
  | .ordered negative rank =>
    if rank.val < F.infinity then
      ofRatio G negative (F.magnitude rank) (Nat.pow 2 F.leastExponent)
    else ofRank G negative G.infinity

/-- The exact value of a finite number, counted in least positive numbers of the format. -/
def units (F : Format) (negative : Bool) (rank : Nat) : Int :=
  if negative then -(F.magnitude rank : Int) else F.magnitude rank

/-- The distance of two numbers, rounded once to the format. -/
def distance : Binary F → Binary F → Binary F
  | .ordered s a, .ordered t b =>
    if a.val < F.infinity ∧ b.val < F.infinity then
      ofRatio F false (units F s a - units F t b).natAbs
        (Nat.pow 2 F.leastExponent)
    else if a.val = b.val ∧ s = t then .nan
    else ofRank F false F.infinity
  | _, _ => .nan

/-- The nearest number between two bounds; "not a number" passes through unchanged. -/
def clamp (x low high : Binary F) : Binary F :=
  if x.isLess low then low else if high.isLess x then high else x

end Binary

end ActiveRules
