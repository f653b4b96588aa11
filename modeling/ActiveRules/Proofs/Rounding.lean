import ActiveRules.Proofs.Decimals
import Mathlib.Tactic.SplitIfs

/-!
# Rounding keeps the order

A larger number is never rounded to a smaller rank, whatever the format, and a number that is a
magnitude of the format is its own rounding.  So ranks are in the order of their magnitudes.

## Main definitions

* `Format.shift`: how many binades above the least one a number is rounded.

## Main statements

* `Format.rankNear_mono`: rounding a quotient is monotone.
* `Format.magnitude_lt_iff`: ranks are in the order of their magnitudes.
* `Format.rankNear_of_magnitude`: a quotient that is a magnitude is rounded to the rank of that.
* `Format.exists_magnitude_eq`: numbers with few leading bits are magnitudes.
* `Format.exists_magnitude_widened`: a wider format has the magnitudes of a narrower one.
-/

namespace ActiveRules

theorem le_roundQuotient (num den : Nat) : num / den ≤ roundQuotient num den := by
  unfold roundQuotient
  dsimp only
  split_ifs <;> omega

theorem roundQuotient_le (num den : Nat) : roundQuotient num den ≤ num / den + 1 := by
  unfold roundQuotient
  dsimp only
  split_ifs <;> omega

theorem roundQuotient_mono {num num' : Nat} (le : num ≤ num') (den : Nat) :
    roundQuotient num den ≤ roundQuotient num' den := by
  rcases Nat.lt_or_ge (num / den) (num' / den) with apart | together
  · calc roundQuotient num den
        ≤ num / den + 1 := roundQuotient_le num den
      _ ≤ num' / den := apart
      _ ≤ roundQuotient num' den := le_roundQuotient num' den
  · -- Between two whole numbers it is the remainder that decides.
    have same : num / den = num' / den := Nat.le_antisymm (Nat.div_le_div_right le) together
    have whole := Nat.div_add_mod num den
    have whole' := Nat.div_add_mod num' den
    rw [same] at whole
    have remainder : num % den ≤ num' % den := by omega
    unfold roundQuotient
    dsimp only
    rw [same]
    split_ifs <;> omega

namespace Format

variable (F : Format)

/-- How many binades above the least one a number is rounded. -/
def shift (number : Nat) : Nat := number.log2 - F.fractionBits

theorem rankNear_eq (num den : Nat) :
    F.rankNear num den =
      F.shift (num / den) * F.binade + roundQuotient num (den * 2 ^ F.shift (num / den)) := rfl

theorem lt_of_shift (number : Nat) : number < 2 * F.binade * 2 ^ F.shift number := by
  have leading : number.log2 + 1 ≤ F.fractionBits + 1 + F.shift number := by
    unfold shift
    omega
  calc number
      < 2 ^ (number.log2 + 1) := Nat.lt_log2_self
    _ ≤ 2 ^ (F.fractionBits + 1 + F.shift number) := Nat.pow_le_pow_right (by decide) leading
    _ = 2 * F.binade * 2 ^ F.shift number := by
      rw [binade, Nat.pow_eq, Nat.pow_add, Nat.pow_succ, Nat.mul_comm (2 ^ F.fractionBits)]

theorem le_of_shift_pos {number : Nat} (positive : 0 < F.shift number) :
    F.binade * 2 ^ F.shift number ≤ number := by
  have leading : F.fractionBits + F.shift number = number.log2 := by
    unfold shift at *
    omega
  have nonzero : number ≠ 0 := by
    rintro rfl
    simp [shift] at positive
  calc F.binade * 2 ^ F.shift number
      = 2 ^ number.log2 := by rw [← leading, Nat.pow_add]; rfl
    _ ≤ number := Nat.log2_self_le nonzero

theorem shift_mono {small large : Nat} (le : small ≤ large) : F.shift small ≤ F.shift large := by
  refine Nat.le_of_not_lt fun above => ?_
  have positive : 0 < F.shift small := by omega
  have apart : 2 * F.binade * 2 ^ F.shift large ≤ F.binade * 2 ^ F.shift small := by
    rw [Nat.mul_comm 2, Nat.mul_assoc, ← Nat.pow_succ']
    exact Nat.mul_le_mul_left _ (Nat.pow_le_pow_right (by decide) (by omega))
  have := F.le_of_shift_pos positive
  have := F.lt_of_shift large
  omega

variable {num den num' den' : Nat} (positive : 0 < den)
include positive

/-- A rounded number is at most two binades above its shift ... -/
theorem rankNear_le : F.rankNear num den ≤ (F.shift (num / den) + 2) * F.binade := by
  have below : num ≤ 2 * F.binade * (den * 2 ^ F.shift (num / den)) := by
    have := (Nat.div_lt_iff_lt_mul positive).mp (F.lt_of_shift (num / den))
    rw [Nat.mul_assoc, Nat.mul_comm _ den] at this
    exact Nat.le_of_lt this
  have grid : 0 < den * 2 ^ F.shift (num / den) := Nat.mul_pos positive (Nat.pow_pos (by decide))
  have rounded := roundQuotient_mono below (den * 2 ^ F.shift (num / den))
  rw [roundQuotient_of_dvd _ grid] at rounded
  rw [rankNear_eq, Nat.add_mul]
  exact Nat.add_le_add_left rounded _

/-- ... and at least one binade above it, unless that is the least one. -/
theorem le_rankNear (shifted : 0 < F.shift (num / den)) :
    (F.shift (num / den) + 1) * F.binade ≤ F.rankNear num den := by
  have above : F.binade * (den * 2 ^ F.shift (num / den)) ≤ num := by
    have := (Nat.le_div_iff_mul_le positive).mp (F.le_of_shift_pos shifted)
    rwa [Nat.mul_assoc, Nat.mul_comm _ den] at this
  have grid : 0 < den * 2 ^ F.shift (num / den) := Nat.mul_pos positive (Nat.pow_pos (by decide))
  have rounded := roundQuotient_mono above (den * 2 ^ F.shift (num / den))
  rw [roundQuotient_of_dvd _ grid] at rounded
  rw [rankNear_eq, Nat.succ_mul]
  exact Nat.add_le_add_left rounded _

theorem rankNear_mono_left (le : num ≤ num') : F.rankNear num den ≤ F.rankNear num' den := by
  have quotients : num / den ≤ num' / den := Nat.div_le_div_right le
  rcases Nat.eq_or_lt_of_le (F.shift_mono quotients) with same | apart
  · rw [rankNear_eq, rankNear_eq, same]
    exact Nat.add_le_add_left (roundQuotient_mono le _) _
  · calc F.rankNear num den
        ≤ (F.shift (num / den) + 2) * F.binade := F.rankNear_le positive
      _ ≤ (F.shift (num' / den) + 1) * F.binade := Nat.mul_le_mul_right _ (by omega)
      _ ≤ F.rankNear num' den := F.le_rankNear positive (by omega)

/-- Rounding a quotient is monotone. -/
theorem rankNear_mono (positive' : 0 < den') (le : num * den' ≤ num' * den) :
    F.rankNear num den ≤ F.rankNear num' den' := by
  calc F.rankNear num den
      = F.rankNear (num * den') (den * den') := (F.rankNear_mul_right _ _ positive').symm
    _ ≤ F.rankNear (num' * den) (den * den') :=
      F.rankNear_mono_left (Nat.mul_pos positive positive') le
    _ = F.rankNear (num' * den) (den' * den) := by rw [Nat.mul_comm den]
    _ = F.rankNear num' den' := F.rankNear_mul_right _ _ positive

/-- A quotient that is a magnitude is rounded to the rank of that. -/
theorem rankNear_of_magnitude {rank : Nat} (exact : F.magnitude rank * den = num) :
    F.rankNear num den = rank := by
  rw [← exact, ← F.rankNear_magnitude rank]
  exact F.rankNear_congr positive (by decide) (by rw [Nat.mul_one, rankNear_magnitude])

omit positive

/-- Ranks are in the order of their magnitudes. -/
theorem magnitude_lt_iff {a b : Nat} : F.magnitude a < F.magnitude b ↔ a < b := by
  have mono {a b : Nat} (le : F.magnitude a ≤ F.magnitude b) : a ≤ b := by
    have := F.rankNear_mono_left (by decide : 0 < 1) le
    rwa [rankNear_magnitude, rankNear_magnitude] at this
  constructor
  · intro less
    refine Nat.lt_of_le_of_ne (mono (Nat.le_of_lt less)) ?_
    rintro rfl
    exact Nat.lt_irrefl _ less
  · intro less
    exact Nat.lt_of_not_le fun le => absurd (mono le) (Nat.not_le_of_lt less)

/-- Different ranks have different magnitudes. -/
theorem magnitude_injective : Function.Injective F.magnitude :=
  Function.LeftInverse.injective (g := fun number => F.rankNear number 1) F.rankNear_magnitude

/-- The magnitude with a given offset into a binade other than the least one. -/
theorem magnitude_binade_add {offset : Nat} (within : offset < F.binade) (exponent : Nat) :
    F.magnitude ((exponent + 1) * F.binade + offset) = (F.binade + offset) * 2 ^ exponent := by
  have large : ¬ (exponent + 1) * F.binade + offset < F.binade := by
    rw [Nat.succ_mul]
    omega
  have remainder : ((exponent + 1) * F.binade + offset) % F.binade = offset := by
    rw [Nat.mul_add_mod_self_right, Nat.mod_eq_of_lt within]
  have quotient : ((exponent + 1) * F.binade + offset) / F.binade = exponent + 1 := by
    rw [Nat.mul_comm, Nat.mul_add_div F.binade_pos, Nat.div_eq_of_lt within, Nat.add_zero]
  rw [magnitude, if_neg large, remainder, quotient]
  rfl

/-- The magnitude that is a given number of steps of a binade.  One step more than the binade has is
the first of the next one. -/
theorem magnitude_of_leading {leading : Nat} (fits : leading ≤ 2 * F.binade) {exponent : Nat}
    (large : exponent = 0 ∨ F.binade ≤ leading) :
    F.magnitude (exponent * F.binade + leading) = leading * 2 ^ exponent := by
  rcases Nat.lt_or_ge leading F.binade with small | full
  · have least : exponent = 0 := large.resolve_right (Nat.not_le_of_lt small)
    rw [least, Nat.zero_mul, Nat.zero_add, magnitude, if_pos small, Nat.pow_zero, Nat.mul_one]
  · rcases Nat.eq_or_lt_of_le fits with carry | within
    · have rank : exponent * F.binade + leading = (exponent + 1 + 1) * F.binade + 0 := by
        rw [carry, Nat.add_assoc exponent, Nat.add_mul]
        rfl
      rw [rank, F.magnitude_binade_add F.binade_pos, carry, Nat.pow_succ, Nat.add_zero,
        Nat.mul_comm 2, Nat.mul_assoc, Nat.mul_comm 2]
    · have rank : exponent * F.binade + leading =
          (exponent + 1) * F.binade + (leading - F.binade) := by
        rw [Nat.succ_mul]
        omega
      rw [rank, F.magnitude_binade_add (by omega), Nat.add_sub_cancel' full]

/-- A number with no more leading bits than a magnitude has is a magnitude. -/
theorem exists_magnitude_eq {leading : Nat} (fits : leading ≤ 2 * F.binade) (exponent : Nat) :
    ∃ rank, F.magnitude rank = leading * 2 ^ exponent := by
  -- A small number is doubled until the exponent is used up or the number fills a binade.
  induction exponent generalizing leading with
  | zero => exact ⟨_, F.magnitude_of_leading fits (.inl rfl)⟩
  | succ exponent ih =>
    rcases Nat.lt_or_ge leading F.binade with small | large
    · have doubled : leading * 2 ≤ 2 * F.binade := by omega
      obtain ⟨rank, exact⟩ := ih doubled
      exact ⟨rank, by rw [exact, Nat.mul_assoc, ← Nat.pow_succ']⟩
    · exact ⟨_, F.magnitude_of_leading fits (.inr large)⟩

theorem exists_leading (rank : Nat) :
    ∃ leading exponent, leading ≤ 2 * F.binade ∧ F.magnitude rank = leading * 2 ^ exponent := by
  rcases Nat.lt_or_ge rank F.binade with small | large
  · exact ⟨rank, 0, by omega, by rw [magnitude, if_pos small, Nat.pow_zero, Nat.mul_one]⟩
  · have offset : rank % F.binade < F.binade := Nat.mod_lt _ F.binade_pos
    refine ⟨F.binade + rank % F.binade, rank / F.binade - 1, by omega, ?_⟩
    rw [magnitude, if_neg (Nat.not_lt_of_le large)]
    rfl

/-- A finite magnitude is one of a format with longer fractions, finer steps and larger numbers,
too. -/
theorem exists_magnitude_widened {F G : Format} (longer : F.binade ≤ G.binade)
    (finer : F.leastExponent ≤ G.leastExponent)
    (larger : F.magnitude F.infinity * 2 ^ (G.leastExponent - F.leastExponent) ≤
      G.magnitude G.infinity) {rank : Nat} (finite : rank < F.infinity) :
    ∃ wide, wide < G.infinity ∧
      G.magnitude wide * 2 ^ F.leastExponent = F.magnitude rank * 2 ^ G.leastExponent := by
  have steps : 0 < 2 ^ (G.leastExponent - F.leastExponent) := Nat.pow_pos (by decide)
  obtain ⟨leading, exponent, fits, exact⟩ := F.exists_leading rank
  obtain ⟨wide, same⟩ := G.exists_magnitude_eq (by omega : leading ≤ 2 * G.binade)
    (exponent + (G.leastExponent - F.leastExponent))
  rw [Nat.pow_add, ← Nat.mul_assoc, ← exact] at same
  refine ⟨wide, ?_, ?_⟩
  · rw [← G.magnitude_lt_iff, same]
    exact Nat.lt_of_lt_of_le (Nat.mul_lt_mul_of_pos_right (F.magnitude_lt_iff.mpr finite) steps)
      larger
  · rw [same, Nat.mul_assoc, ← Nat.pow_add, Nat.sub_add_cancel finer]

end Format

end ActiveRules
