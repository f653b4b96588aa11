import ActiveRules.Value
import ActiveRules.Proofs.Numerals

/-!
# Decimals read back

A finite binary number is written as the decimal that `Decimal.shortest` finds.  Reading that
decimal rounds to the number that was written, for every format and every finite rank.

## Main definitions

* `Decimal.numerator`, `Decimal.denominator`: a decimal as a quotient of naturals.

## Main statements

* `Format.rankNear_magnitude`: an exact magnitude is rounded to its own rank.
* `Format.rankNear_congr`: rounding depends on the quotient only, not on how it is written.
* `Decimal.rankNear_shortest`: the decimal that is written reads back.
* `Value.exists_numeral`: the spelling of a finite number is a numeral with that value.

## Design notes

`Decimal.shortest` answers a decimal that was tried, or the full expansion.  The first reads back
because it was tried; for the second `Format.rankNear_magnitude` is needed.
-/

namespace ActiveRules

/-! ## Rounding a quotient -/

theorem roundQuotient_mul_right (num den : Nat) {k : Nat} (positive : 0 < k) :
    roundQuotient (num * k) (den * k) = roundQuotient num den := by
  have double : 2 * (num % den * k) = 2 * (num % den) * k := by rw [Nat.mul_assoc]
  simp only [roundQuotient, Nat.mul_div_mul_right _ _ positive, Nat.mul_mod_mul_right, double,
    Nat.mul_lt_mul_right positive]

/-- A quotient without remainder is rounded to itself. -/
theorem roundQuotient_of_dvd (quotient : Nat) {den : Nat} (positive : 0 < den) :
    roundQuotient (quotient * den) den = quotient := by
  simp [roundQuotient, Nat.mul_div_cancel _ positive, positive]

namespace Format

variable (F : Format)

theorem binade_pos : 0 < F.binade := Nat.pow_pos (by decide)

theorem rankNear_mul_right (num den : Nat) {k : Nat} (positive : 0 < k) :
    F.rankNear (num * k) (den * k) = F.rankNear num den := by
  have grid (shift : Nat) : den * k * Nat.pow 2 shift = den * Nat.pow 2 shift * k := by
    rw [Nat.mul_right_comm]
  simp only [rankNear, Nat.mul_div_mul_right _ _ positive, grid,
    roundQuotient_mul_right _ _ positive]

/-- Rounding depends on the quotient only, not on how it is written. -/
theorem rankNear_congr {num den num' den' : Nat} (positive : 0 < den) (positive' : 0 < den')
    (equal : num * den' = num' * den) : F.rankNear num den = F.rankNear num' den' := by
  calc F.rankNear num den
      = F.rankNear (num * den') (den * den') := (F.rankNear_mul_right _ _ positive').symm
    _ = F.rankNear (num' * den) (den' * den) := by rw [equal, Nat.mul_comm den]
    _ = F.rankNear num' den' := F.rankNear_mul_right _ _ positive

/-- Below the first binade every natural number is a magnitude of the format. -/
theorem rankNear_of_lt_binade {rank : Nat} (small : rank < F.binade) :
    F.rankNear rank 1 = rank := by
  have shift : rank.log2 - F.fractionBits = 0 := by
    rcases Nat.eq_zero_or_pos rank with zero | positive
    · subst zero
      simp
    · have := (Nat.log2_lt (Nat.ne_of_gt positive)).mpr small
      omega
  have whole : roundQuotient (rank * 1) 1 = rank := roundQuotient_of_dvd rank (by decide)
  rw [Nat.mul_one] at whole
  simp [rankNear, shift, whole]

/-- The leading bit of a magnitude tells its binade. -/
theorem log2_scaled {offset : Nat} (within : offset < F.binade) (exponent : Nat) :
    ((F.binade + offset) * 2 ^ exponent).log2 = F.fractionBits + exponent := by
  have binade : F.binade = 2 ^ F.fractionBits := rfl
  have positive : 0 < 2 ^ exponent := Nat.pow_pos (by decide)
  have nonzero : (F.binade + offset) * 2 ^ exponent ≠ 0 :=
    Nat.ne_of_gt (Nat.mul_pos (Nat.add_pos_left F.binade_pos _) positive)
  rw [Nat.log2_eq_iff nonzero]
  constructor
  · rw [Nat.pow_add, ← binade]
    exact Nat.mul_le_mul_right _ (Nat.le_add_right _ _)
  · rw [Nat.add_right_comm, Nat.pow_add, Nat.pow_succ, ← binade]
    exact Nat.mul_lt_mul_of_pos_right (by omega) positive

/-- An exact magnitude is rounded to its own rank. -/
theorem rankNear_magnitude (rank : Nat) : F.rankNear (F.magnitude rank) 1 = rank := by
  by_cases small : rank < F.binade
  · rw [magnitude, if_pos small]
    exact F.rankNear_of_lt_binade small
  · have offset : rank % F.binade < F.binade := Nat.mod_lt _ F.binade_pos
    obtain ⟨exponent, quotient⟩ : ∃ exponent, rank / F.binade = exponent + 1 := by
      have := Nat.div_pos (Nat.le_of_not_lt small) F.binade_pos
      exact ⟨rank / F.binade - 1, by omega⟩
    have division := Nat.div_add_mod rank F.binade
    have shift := F.log2_scaled offset exponent
    have positive : 0 < 2 ^ exponent := Nat.pow_pos (by decide)
    rw [quotient] at division
    simp only [magnitude, if_neg small, quotient, rankNear, Nat.add_sub_cancel, Nat.pow_eq,
      Nat.div_one, shift, Nat.add_sub_cancel_left, Nat.one_mul, roundQuotient_of_dvd _ positive]
    rw [Nat.mul_succ, Nat.mul_comm] at division
    omega

end Format

/-! ## Decimals as quotients -/

namespace Decimal

/-- A decimal is the quotient of this number ... -/
def numerator (d : Decimal) : Nat := d.coefficient * 10 ^ d.exponent.toNat

/-- ... and this power of ten. -/
def denominator (d : Decimal) : Nat := 10 ^ (-d.exponent).toNat

theorem denominator_pos (d : Decimal) : 0 < d.denominator := Nat.pow_pos (by decide)

/-- Moving trailing zeros into the exponent leaves the quotient as it is. -/
theorem normalize_quotient (coefficient : Nat) (exponent : Int) :
    (normalize coefficient exponent).numerator * 10 ^ (-exponent).toNat =
      coefficient * 10 ^ exponent.toNat * (normalize coefficient exponent).denominator := by
  fun_induction normalize coefficient exponent with
  | case1 exponent => simp [numerator]
  | case2 coefficient exponent nonzero trailing ih =>
    have shifted : coefficient = coefficient / 10 * 10 := by omega
    rcases Int.lt_or_le exponent 0 with negative | nonnegative
    · have place : (-exponent).toNat = (-(exponent + 1)).toNat + 1 := by omega
      have units : (exponent + 1).toNat = 0 ∧ exponent.toNat = 0 := by omega
      rw [units.1, Nat.pow_zero, Nat.mul_one] at ih
      rw [place, Nat.pow_succ, ← Nat.mul_assoc, ih, units.2, Nat.pow_zero, Nat.mul_one,
        Nat.mul_right_comm, ← shifted]
    · have place : (exponent + 1).toNat = exponent.toNat + 1 := by omega
      have units : (-(exponent + 1)).toNat = 0 ∧ (-exponent).toNat = 0 := by omega
      rw [units.1, place, Nat.pow_succ, Nat.mul_comm _ 10, ← Nat.mul_assoc, ← shifted] at ih
      rw [units.2, ih]
  | case3 coefficient exponent nonzero significant => rfl

/-- Positional notation is a numeral with a point, and worth the decimal that it is written for. -/
theorem positional_spec (d : Decimal) : ∃ whole fraction,
    d.positional = whole ++ '.' :: fraction ∧ Numeral.IsRun whole ∧
      (∀ c ∈ fraction, c.isDigit = true) ∧
      Numeral.value (whole ++ fraction) * d.denominator = d.numerator * 10 ^ fraction.length := by
  obtain ⟨coefficient, exponent⟩ := d
  cases exponent with
  | ofNat zeros =>
    refine ⟨Numeral.digits coefficient ++ List.replicate zeros '0', ['0'], ?_, ?_, ?_, ?_⟩
    · rw [positional, List.append_assoc]
    · exact (Numeral.isRun_digits coefficient).append (Numeral.isDigit_replicate_zero zeros)
    · intro c member
      rw [List.mem_singleton.mp member]
      rfl
    · have zero : Numeral.value ['0'] = 0 := rfl
      simp [Numeral.value_append, Numeral.value_digits, Numeral.value_replicate_zero, zero,
        numerator, denominator, Nat.pow_succ, Nat.mul_assoc]
  | negSucc k =>
    -- The digits behind the point are padded to one for every place of the exponent, so that they
    -- are worth the remainder and not a larger fraction.
    let tail := Numeral.digits (coefficient % 10 ^ (k + 1))
    have fits : tail.length ≤ k + 1 :=
      Numeral.length_digits_le (Nat.succ_pos k) (Nat.mod_lt _ (Nat.pow_pos (by decide)))
    refine ⟨Numeral.digits (coefficient / 10 ^ (k + 1)), tail.leftpad (k + 1) '0', rfl,
      Numeral.isRun_digits _, ?_, ?_⟩
    · exact Numeral.isDigit_leftpad (k + 1) (Numeral.isRun_digits _).isDigit
    · have division := Nat.div_add_mod coefficient (10 ^ (k + 1))
      rw [Numeral.value_append, Numeral.value_digits, Numeral.value_leftpad, Numeral.value_digits,
        Numeral.length_leftpad fits, Nat.mul_comm _ (10 ^ (k + 1)), division]
      simp [numerator, denominator]

/-! ## The decimal that is written -/

/-- The full expansion of a rank reads back, because it is the exact magnitude. -/
theorem readsBack_expansion (F : Format) (rank : Nat) :
    readsBack F rank (F.magnitude rank * 5 ^ F.leastExponent) = true := by
  have tens : (5 : Nat) ^ F.leastExponent * 2 ^ F.leastExponent = 10 ^ F.leastExponent := by
    rw [← Nat.mul_pow]
  have exact : F.rankNear (F.magnitude rank * 10 ^ F.leastExponent) (10 ^ F.leastExponent) =
      F.rankNear (F.magnitude rank) 1 :=
    F.rankNear_congr (Nat.pow_pos (by decide)) (by decide) (by rw [Nat.mul_one])
  simp only [readsBack, Nat.pow_eq, Nat.mul_assoc, tens, exact, F.rankNear_magnitude,
    beq_self_eq_true]

/-- A decimal that was tried with success reads back. -/
theorem readsBack_of_shorten? {F : Format} {rank expansion dropped candidate : Nat}
    (found : shorten? F rank expansion dropped = some candidate) :
    readsBack F rank (candidate * 10 ^ dropped) = true := by
  rw [shorten?] at found
  have hit := List.find?_some found
  exact hit

/-- The decimal that is written is a multiple of a power of ten that was tried, or the full
expansion. -/
theorem shortest_spec (F : Format) (rank : Nat) : ∃ coefficient count : Nat,
    shortest F rank = normalize coefficient (count - F.leastExponent) ∧
      readsBack F rank (coefficient * 10 ^ count) = true := by
  let expansion := F.magnitude rank * Nat.pow 5 F.leastExponent
  let dropped := (List.range mostDigits).map fun kept =>
    (Numeral.digits expansion).length - (kept + 1)
  let tried := dropped.findSome? fun count => (shorten? F rank expansion count).map (·, count)
  have unfolded : shortest F rank =
      normalize (tried.getD (expansion, 0)).1 ((tried.getD (expansion, 0)).2 - F.leastExponent) :=
    rfl
  refine ⟨_, _, unfolded, ?_⟩
  cases found : tried with
  | none => simpa [expansion] using readsBack_expansion F rank
  | some pair =>
    obtain ⟨count, -, shortened⟩ := List.exists_of_findSome?_eq_some found
    obtain ⟨candidate, hit, rfl⟩ := Option.map_eq_some_iff.mp shortened
    exact readsBack_of_shorten? hit

/-- A quotient that is worth a normalized decimal is worth the decimal that was normalized, `count`
powers of ten above the unit `10 ^ -least`. -/
theorem quotient_of_normalize {coefficient count least num den : Nat}
    (quotient : num * (normalize coefficient (count - least)).denominator =
      (normalize coefficient (count - least)).numerator * den) :
    num * 10 ^ least = coefficient * 10 ^ count * den := by
  have normalized := normalize_quotient coefficient (count - least)
  have nonzero := denominator_pos (normalize coefficient (count - least))
  generalize normalize coefficient (count - least) = d at quotient normalized nonzero
  -- Both quotients are compared through the normalized one.  Its denominator cancels first, then
  -- the power of ten that the sign of the exponent put on one side or the other.
  let up := 10 ^ ((count : Int) - least).toNat
  let down := 10 ^ (-((count : Int) - least)).toNat
  have balanced : down * 10 ^ count = up * 10 ^ least := by
    rw [← Nat.pow_add, ← Nat.pow_add]
    congr 1
    omega
  have scaled : num * down = coefficient * up * den := by
    refine Nat.eq_of_mul_eq_mul_right nonzero ?_
    calc num * down * d.denominator
        = num * d.denominator * down := Nat.mul_right_comm _ _ _
      _ = d.numerator * down * den := by rw [quotient, Nat.mul_right_comm]
      _ = coefficient * up * d.denominator * den := by rw [normalized]
      _ = coefficient * up * den * d.denominator := Nat.mul_right_comm _ _ _
  refine Nat.eq_of_mul_eq_mul_right (Nat.pow_pos (by decide) : 0 < up) ?_
  calc num * 10 ^ least * up
      = num * (up * 10 ^ least) := by rw [Nat.mul_assoc, Nat.mul_comm up]
    _ = num * down * 10 ^ count := by rw [← balanced, Nat.mul_assoc]
    _ = coefficient * up * den * 10 ^ count := by rw [scaled]
    _ = coefficient * 10 ^ count * den * up := by ac_rfl

/-- The decimal that is written reads back, however it is written as a quotient. -/
theorem rankNear_shortest (F : Format) (rank : Nat) {num den : Nat} (positive : 0 < den)
    (quotient : num * (shortest F rank).denominator = (shortest F rank).numerator * den) :
    F.rankNear (num * 2 ^ F.leastExponent) den = rank := by
  obtain ⟨coefficient, count, found, back⟩ := shortest_spec F rank
  rw [found] at quotient
  have equal := quotient_of_normalize quotient
  have tried : F.rankNear (coefficient * 10 ^ count * 2 ^ F.leastExponent)
      (10 ^ F.leastExponent) = rank := by simpa [readsBack] using back
  rw [← tried]
  refine F.rankNear_congr positive (Nat.pow_pos (by decide)) ?_
  calc num * 2 ^ F.leastExponent * 10 ^ F.leastExponent
      = num * 10 ^ F.leastExponent * 2 ^ F.leastExponent := Nat.mul_right_comm _ _ _
    _ = coefficient * 10 ^ count * 2 ^ F.leastExponent * den := by
      rw [equal, Nat.mul_right_comm]

end Decimal

/-! ## Spellings of finite numbers -/

/-- The minus sign of a numeral, where it has one. -/
def Numeral.sign (negative : Bool) : List Char := if negative then ['-'] else []

/-- The spelling of a finite number is a numeral with a point whose value is that number. -/
theorem Value.exists_numeral {F : Format} {x : Binary F} (finite : x.isFinite = true) :
    ∃ negative whole fraction,
      numberSpelling x = Numeral.sign negative ++ whole ++ '.' :: fraction ∧
        Numeral.IsRun whole ∧ (∀ c ∈ fraction, c.isDigit = true) ∧
        Binary.ofNumeral F negative whole fraction = x := by
  cases x with
  | nan => cases finite
  | ordered negative rank =>
    have inRange : rank.val < F.infinity := of_decide_eq_true finite
    obtain ⟨whole, fraction, positional, run, digits, quotient⟩ :=
      (Decimal.shortest F rank).positional_spec
    refine ⟨negative, whole, fraction, ?_, run, digits, ?_⟩
    · rw [numberSpelling, if_pos inRange, positional]
      cases negative <;> simp [Numeral.sign]
    · have back := Decimal.rankNear_shortest F rank (Nat.pow_pos (by decide)) quotient
      simp only [Binary.ofNumeral, Binary.ofRatio, Binary.ofRank, Nat.pow_eq, back]
      congr 1
      exact Fin.ext (Nat.min_eq_left (Nat.le_of_lt inRange))

end ActiveRules
