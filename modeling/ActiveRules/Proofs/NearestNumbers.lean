import ActiveRules.Proofs.Rounding
import Mathlib.Algebra.Order.Field.Basic
import Mathlib.Algebra.Order.Field.Rat
import Mathlib.Tactic.FieldSimp
import Mathlib.Tactic.Linarith

/-!
# Rounding is to the nearest

Rounding a quotient gives the rank whose exact magnitude is nearest to it; of two ranks that are
equally near it is the even one.  No other rank can say that of itself, so the nearest number is
known without looking at how it is found.

## Main definitions

* `Format.exactMagnitude`: the magnitude of a rank as a rational.
* `Format.IsNearest`: a rank is the one that a magnitude is to be rounded to.
* `Binary.IsRounded`: a number is a magnitude rounded, with a sign.

## Main statements

* `Format.rankNear_nearest`, `Format.even_rankNear`: rounding among the magnitudes of a format.
* `Format.IsNearest.unique`: there is one rank that a magnitude is to be rounded to.
* `Binary.isRounded_iff`: the number nearest to a quotient is the one that rounding it gives.

## Design notes

Ranks have no end here.  Those from infinity on have the magnitudes that longer exponents would
give them, and a number whose nearest rank is one of these is an infinity.
-/

namespace ActiveRules

/-! ## The nearest multiple -/

section Multiples

variable (num : Nat) {den : Nat} (positive : 0 < den)
include positive

/-- A rounded quotient is off by half a step at most, and it is even if it is off by that. -/
theorem roundQuotient_half :
    2 * ((roundQuotient num den * den : Nat) - num : Int).natAbs < den ∨
      2 * ((roundQuotient num den * den : Nat) - num : Int).natAbs = den ∧
        roundQuotient num den % 2 = 0 := by
  have division := Nat.div_add_mod' num den
  have remainder := Nat.mod_lt num positive
  have next : (num / den + 1) * den = num / den * den + den := Nat.succ_mul _ _
  unfold roundQuotient
  dsimp only
  split
  · omega
  · split
    · omega
    · rcases Nat.mod_two_eq_zero_or_one (num / den) with even | odd
      · rw [even, Nat.add_zero]
        omega
      · rw [odd]
        omega

omit num positive in
/-- Different multiples are a step apart. -/
theorem le_natAbs_of_ne {multiple other : Nat} (apart : other ≠ multiple) (den : Nat) :
    den ≤ ((other * den : Nat) - (multiple * den : Nat) : Int).natAbs := by
  rcases Nat.lt_or_gt_of_ne apart with below | above
  · have scaled := Nat.mul_le_mul_right den below
    rw [Nat.succ_mul] at scaled
    omega
  · have scaled := Nat.mul_le_mul_right den above
    rw [Nat.succ_mul] at scaled
    omega

/-- No multiple is nearer than the rounded quotient ... -/
theorem roundQuotient_nearest (other : Nat) :
    ((roundQuotient num den * den : Nat) - num : Int).natAbs ≤
      ((other * den : Nat) - num : Int).natAbs := by
  by_cases same : other = roundQuotient num den
  · rw [same]
  · have half := roundQuotient_half num positive
    have step := le_natAbs_of_ne same den
    omega

/-- ... and where another is as near, the rounded quotient is even. -/
theorem even_roundQuotient {other : Nat} (apart : other ≠ roundQuotient num den)
    (tie : ((roundQuotient num den * den : Nat) - num : Int).natAbs =
      ((other * den : Nat) - num : Int).natAbs) : roundQuotient num den % 2 = 0 := by
  have half := roundQuotient_half num positive
  have step := le_natAbs_of_ne apart den
  omega

end Multiples

namespace Format

variable (F : Format)

/-! ## The nearest magnitude -/

section Ranks

variable (num : Nat) {den : Nat} (positive : 0 < den)
include positive

/-- The magnitude of a rounded quotient is a whole number of the steps that are taken there. -/
theorem magnitude_rankNear :
    F.magnitude (F.rankNear num den) =
      roundQuotient num (den * 2 ^ F.shift (num / den)) * 2 ^ F.shift (num / den) := by
  have fits : F.rankNear num den ≤ _ := F.rankNear_le positive
  rw [rankNear_eq, Nat.add_mul] at fits
  refine F.magnitude_of_leading (Nat.le_of_add_le_add_left fits) ?_
  rcases Nat.eq_zero_or_pos (F.shift (num / den)) with least | shifted
  · exact .inl least
  · have large := F.le_rankNear positive shifted
    rw [rankNear_eq, Nat.succ_mul] at large
    exact .inr (Nat.le_of_add_le_add_left large)

omit num positive in
/-- The magnitudes that are as large as a shifted binade go by the steps of that binade. -/
theorem exists_steps {shift rank : Nat} (large : (shift + 1) * F.binade ≤ rank) :
    ∃ steps, F.magnitude rank = steps * 2 ^ shift := by
  have above : shift + 1 ≤ rank / F.binade := (Nat.le_div_iff_mul_le F.binade_pos).mpr large
  have full : ¬ rank < F.binade := by
    intro small
    rw [Nat.div_eq_of_lt small] at above
    omega
  refine ⟨(F.binade + rank % F.binade) * 2 ^ (rank / F.binade - 1 - shift), ?_⟩
  rw [magnitude, if_neg full, Nat.mul_assoc, ← Nat.pow_add, Nat.sub_add_cancel (by omega)]
  rfl

/-- Every magnitude is a whole number of the steps that are taken at a quotient, or it is less than
the binade that the quotient is in. -/
theorem steps_or_less (rank : Nat) :
    (∃ steps, F.magnitude rank = steps * 2 ^ F.shift (num / den)) ∨
      F.magnitude rank * den < F.binade * (den * 2 ^ F.shift (num / den)) ∧
        F.binade * (den * 2 ^ F.shift (num / den)) ≤ num := by
  rcases Nat.eq_zero_or_pos (F.shift (num / den)) with least | shifted
  · exact .inl ⟨F.magnitude rank, by rw [least, Nat.pow_zero, Nat.mul_one]⟩
  · rcases Nat.lt_or_ge rank ((F.shift (num / den) + 1) * F.binade) with less | large
    · right
      have bound := F.magnitude_binade_add F.binade_pos (F.shift (num / den))
      rw [Nat.add_zero, Nat.add_zero] at bound
      rw [← F.magnitude_lt_iff, bound] at less
      have quotient := (Nat.le_div_iff_mul_le positive).mp (F.le_of_shift_pos shifted)
      rw [Nat.mul_comm den, ← Nat.mul_assoc]
      exact ⟨Nat.mul_lt_mul_of_pos_right less positive, quotient⟩
    · exact .inl (F.exists_steps large)

/-- No magnitude is nearer to a quotient than that of its rounding ... -/
theorem rankNear_nearest (other : Nat) :
    ((F.magnitude (F.rankNear num den) * den : Nat) - num : Int).natAbs ≤
      ((F.magnitude other * den : Nat) - num : Int).natAbs := by
  have grid : 0 < den * 2 ^ F.shift (num / den) := Nat.mul_pos positive (Nat.pow_pos (by decide))
  rw [F.magnitude_rankNear num positive, Nat.mul_assoc, Nat.mul_comm _ den]
  rcases F.steps_or_less num positive other with ⟨steps, exact⟩ | ⟨less, inBinade⟩
  · rw [exact, Nat.mul_assoc, Nat.mul_comm _ den]
    exact roundQuotient_nearest num grid steps
  · have nearest := roundQuotient_nearest num grid F.binade
    omega

/-- ... and where another is as near, the rank of its rounding is even. -/
theorem even_rankNear (proper : 0 < F.fractionBits) {other : Nat}
    (apart : other ≠ F.rankNear num den)
    (tie : ((F.magnitude (F.rankNear num den) * den : Nat) - num : Int).natAbs =
      ((F.magnitude other * den : Nat) - num : Int).natAbs) : F.rankNear num den % 2 = 0 := by
  have grid : 0 < den * 2 ^ F.shift (num / den) := Nat.mul_pos positive (Nat.pow_pos (by decide))
  have own := F.magnitude_rankNear num positive
  rw [own, Nat.mul_assoc, Nat.mul_comm _ den] at tie
  rcases F.steps_or_less num positive other with ⟨steps, exact⟩ | ⟨less, inBinade⟩
  · have otherSteps : steps ≠ roundQuotient num (den * 2 ^ F.shift (num / den)) := by
      rintro rfl
      rw [← exact] at own
      exact apart (F.magnitude_injective own.symm)
    rw [exact, Nat.mul_assoc, Nat.mul_comm _ den] at tie
    have even := even_roundQuotient num grid otherSteps tie
    have evenBinade : F.binade % 2 = 0 :=
      Nat.mod_eq_zero_of_dvd (dvd_pow_self 2 (Nat.ne_of_gt proper))
    rw [rankNear_eq, Nat.add_mod, Nat.mul_mod, evenBinade, even]
    rfl
  · have nearest := roundQuotient_nearest num grid F.binade
    omega

end Ranks

/-! ## Exact magnitudes -/

/-- The exact magnitude of a rank. -/
def exactMagnitude (rank : Nat) : ℚ := F.magnitude rank / 2 ^ F.leastExponent

/-- A rank is the one that a magnitude is to be rounded to. -/
structure IsNearest (size : ℚ) (rank : Nat) : Prop where
  /-- No other rank is nearer. -/
  nearest : ∀ other, |F.exactMagnitude rank - size| ≤ |F.exactMagnitude other - size|
  /-- If another is as near, the rank is even. -/
  even : ∀ other ≠ rank, |F.exactMagnitude rank - size| = |F.exactMagnitude other - size| →
    rank % 2 = 0

theorem exactMagnitude_lt_iff {a b : Nat} : F.exactMagnitude a < F.exactMagnitude b ↔ a < b := by
  rw [exactMagnitude, exactMagnitude, div_lt_div_iff_of_pos_right (pow_pos two_pos _), Nat.cast_lt,
    F.magnitude_lt_iff]

/-- How far a magnitude is from a quotient, counted in parts that both are whole numbers of. -/
theorem distance_eq (rank num : Nat) {den : Nat} (positive : 0 < den) :
    |F.exactMagnitude rank - (num / den : ℚ)| =
      ((F.magnitude rank * den : Nat) - (num * 2 ^ F.leastExponent : Nat) : Int).natAbs /
        (2 ^ F.leastExponent * den : ℚ) := by
  have steps : (0 : ℚ) < 2 ^ F.leastExponent := pow_pos two_pos _
  have parts : (0 : ℚ) < den := Nat.cast_pos.mpr positive
  have common : F.exactMagnitude rank - (num / den : ℚ) =
      (F.magnitude rank * den - num * 2 ^ F.leastExponent) / (2 ^ F.leastExponent * den) := by
    rw [exactMagnitude]
    field_simp
  rw [common, abs_div, abs_of_pos (mul_pos steps parts), Nat.cast_natAbs]
  push_cast
  rfl

/-- Rounding a quotient gives the rank that it is to be rounded to. -/
theorem isNearest_rankNear (proper : 0 < F.fractionBits) (num : Nat) {den : Nat}
    (positive : 0 < den) :
    F.IsNearest (num / den) (F.rankNear (num * 2 ^ F.leastExponent) den) := by
  have parts : (0 : ℚ) < 2 ^ F.leastExponent * den :=
    mul_pos (pow_pos two_pos _) (Nat.cast_pos.mpr positive)
  constructor
  · intro other
    rw [distance_eq F _ num positive, distance_eq F _ num positive,
      div_le_div_iff_of_pos_right parts, Nat.cast_le]
    exact F.rankNear_nearest _ positive other
  · intro other apart tie
    rw [distance_eq F _ num positive, distance_eq F _ num positive,
      div_left_inj' (ne_of_gt parts), Nat.cast_inj] at tie
    exact F.even_rankNear _ positive proper apart tie

namespace IsNearest

variable {F : Format} {size : ℚ} {rank other : Nat}

/-- Of two ranks that a magnitude is to be rounded to neither is below the other: both would be
even, and a rank between them would be nearer than either. -/
theorem not_lt (here : F.IsNearest size rank) (there : F.IsNearest size other) :
    ¬ rank < other := by
  intro below
  have tie := le_antisymm (here.nearest other) (there.nearest rank)
  have even := here.even other (Nat.ne_of_gt below) tie
  have otherEven := there.even rank (Nat.ne_of_lt below) tie.symm
  have lower := F.exactMagnitude_lt_iff.mpr (Nat.lt_succ_self rank)
  have upper := F.exactMagnitude_lt_iff.mpr (by omega : rank + 1 < other)
  have between := here.nearest (rank + 1)
  rcases abs_eq_abs.mp tie with same | mirrored
  · linarith
  · have left : F.exactMagnitude rank - size < 0 := by linarith
    rw [abs_of_neg left] at between
    rcases abs_cases (F.exactMagnitude (rank + 1) - size) with ⟨equal, -⟩ | ⟨equal, -⟩
    · linarith
    · linarith

/-- There is one rank that a magnitude is to be rounded to. -/
theorem unique (here : F.IsNearest size rank) (there : F.IsNearest size other) : rank = other :=
  Nat.le_antisymm (Nat.le_of_not_lt (not_lt there here)) (Nat.le_of_not_lt (not_lt here there))

end IsNearest

end Format

/-! ## Rounded numbers -/

namespace Binary

variable {F : Format}

/-- A number is a magnitude rounded to its format, with a sign.  Beyond the largest rank of the
format it is an infinity. -/
def IsRounded (x : Binary F) (negative : Bool) (size : ℚ) : Prop :=
  ∃ rank, F.IsNearest size rank ∧ x = .ofRank F negative rank

/-- The number nearest to a quotient is the one that rounding it gives. -/
theorem isRounded_iff (proper : 0 < F.fractionBits) {x : Binary F} {negative : Bool} {num den : Nat}
    (positive : 0 < den) :
    x.IsRounded negative (num / den) ↔ x = .ofRatio F negative num den := by
  have nearest := F.isNearest_rankNear proper num positive
  constructor
  · rintro ⟨rank, isNearest, rfl⟩
    rw [isNearest.unique nearest]
    rfl
  · rintro rfl
    exact ⟨_, nearest, rfl⟩

end Binary

end ActiveRules
