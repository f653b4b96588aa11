import ActiveRules.Proofs.Rounding
import Mathlib.Algebra.Order.Field.Rat
import Mathlib.Data.Int.ConditionallyCompleteOrder
import Mathlib.Order.Compare
import Mathlib.Order.WithBotTop

/-!
# Exact values of binary numbers

A number of a format has an exact value, a rational or an infinity.  Every exact value, whether the
format has it or not, has a place among the numbers of the format, to which it is rounded.  The
place of a value is monotone in it, and a number of the format stands at the place of its value.

## Main definitions

* `Format.place`: where an exact value stands among the numbers of a format.
* `Binary.exactValue?`: the exact value of a number.
* `Binary.place?`: where a number stands among those of its format.

## Main statements

* `Format.place_mono`: places are in the order of exact values.
* `Binary.place?_eq`, `Binary.place?_convert`, `Binary.place?_ofInt`: a number, a number that is
  converted and an integer that is converted stand where their exact values do.
* `Binary.compare_eq_cmp`: numbers of one format are in the order of their exact values.
* `Binary.exactValue?_convert`, `Binary.exactValue?_ofInt`: a wider format keeps exact values, and
  integers of few bits keep theirs.

## Design notes

A place is counted in ranks from zero, in the direction of the sign.  So the two zeros of a format
have one place, and one exact value.
-/

namespace ActiveRules

/-! ## Places in a format -/

namespace Format

variable (F : Format)

/-- The rank that a quotient is rounded to, in a format that has a largest one. -/
def nearestRank (num den : Nat) : Nat := min (F.rankNear (num * 2 ^ F.leastExponent) den) F.infinity

theorem nearestRank_zero (den : Nat) : F.nearestRank 0 den = 0 := by
  simp [nearestRank, rankNear, roundQuotient]

/-- A larger quotient is rounded to no smaller rank. -/
theorem nearestRank_mono {num num' den den' : Nat} (positive : 0 < den) (positive' : 0 < den')
    (le : num * den' ≤ num' * den) : F.nearestRank num den ≤ F.nearestRank num' den' := by
  have scaled : num * 2 ^ F.leastExponent * den' ≤ num' * 2 ^ F.leastExponent * den := by
    rw [Nat.mul_right_comm, Nat.mul_right_comm num']
    exact Nat.mul_le_mul_right _ le
  have := F.rankNear_mono positive positive' scaled
  unfold nearestRank
  omega

/-- Where a quotient would stand among the numbers of a format, counted from zero. -/
def placeOf (num : Int) (den : Nat) : Int :=
  Binary.signedRank (decide (num < 0)) (F.nearestRank num.natAbs den)

theorem placeOf_of_nonneg {num : Int} (nonneg : 0 ≤ num) (den : Nat) :
    F.placeOf num den = F.nearestRank num.natAbs den := by
  rw [placeOf, decide_eq_false (Int.not_lt.mpr nonneg)]
  rfl

theorem placeOf_of_nonpos {num : Int} (nonpos : num ≤ 0) (den : Nat) :
    F.placeOf num den = -F.nearestRank num.natAbs den := by
  rcases Int.lt_or_eq_of_le nonpos with negative | rfl
  · rw [placeOf, decide_eq_true negative]
    rfl
  · rw [placeOf, Int.natAbs_zero, nearestRank_zero]
    rfl

variable {num num' : Int} {den den' : Nat}

/-- A larger quotient stands no further down, whatever its sign. -/
theorem placeOf_mono (positive : 0 < den) (positive' : 0 < den') (le : num * den' ≤ num' * den) :
    F.placeOf num den ≤ F.placeOf num' den' := by
  rcases Int.lt_or_le num 0 with negative | nonneg <;>
    rcases Int.lt_or_le num' 0 with negative' | nonneg'
  · have nonpos := Int.le_of_lt negative
    have nonpos' := Int.le_of_lt negative'
    have mirrored : num'.natAbs * den ≤ num.natAbs * den' := by
      rw [← Int.ofNat_le, Int.natCast_mul, Int.natCast_mul, Int.ofNat_natAbs_of_nonpos nonpos,
        Int.ofNat_natAbs_of_nonpos nonpos', Int.neg_mul, Int.neg_mul]
      exact Int.neg_le_neg le
    have := F.nearestRank_mono positive' positive mirrored
    rw [placeOf_of_nonpos F nonpos, placeOf_of_nonpos F nonpos']
    omega
  · rw [placeOf_of_nonpos F (Int.le_of_lt negative), placeOf_of_nonneg F nonneg']
    omega
  · have left : 0 ≤ num * den' := Int.mul_nonneg nonneg (Int.natCast_nonneg den')
    have right : num' * den < 0 :=
      Int.mul_neg_of_neg_of_pos negative' (Int.natCast_pos.mpr positive)
    omega
  · have plain : num.natAbs * den' ≤ num'.natAbs * den := by
      rwa [← Int.ofNat_le, Int.natCast_mul, Int.natCast_mul, Int.natAbs_of_nonneg nonneg,
        Int.natAbs_of_nonneg nonneg']
    have := F.nearestRank_mono positive positive' plain
    rw [placeOf_of_nonneg F nonneg, placeOf_of_nonneg F nonneg']
    omega

/-- Where a quotient stands does not depend on the fraction it is given as. -/
theorem placeOf_congr (positive : 0 < den) (positive' : 0 < den')
    (equal : num * den' = num' * den) : F.placeOf num den = F.placeOf num' den' :=
  Int.le_antisymm (F.placeOf_mono positive positive' (Int.le_of_eq equal))
    (F.placeOf_mono positive' positive (Int.le_of_eq equal.symm))

/-- Where an exact value would stand among the numbers of a format, counted from zero. -/
def place : WithBotTop ℚ → Int
  | ⊥ => -F.infinity
  | (q : ℚ) => F.placeOf q.num q.den
  | ⊤ => F.infinity

/-- No exact value stands beyond the two infinities. -/
theorem place_bounds (A : WithBotTop ℚ) : -F.infinity ≤ F.place A ∧ F.place A ≤ F.infinity := by
  induction A using WithBotTop.rec with
  | bot =>
    simp only [place]
    omega
  | coe q =>
    simp only [place, placeOf, Binary.signedRank, nearestRank]
    split <;> omega
  | top =>
    simp only [place]
    omega

/-- A larger value stands no further down. -/
theorem place_mono : Monotone F.place := by
  intro A B le
  induction A using WithBotTop.rec with
  | bot => exact (F.place_bounds B).1
  | top => rw [top_le_iff.mp le]
  | coe q =>
    induction B using WithBotTop.rec with
    | bot => exact absurd (le_bot_iff.mp le) (WithBotTop.coe_ne_bot q)
    | top => exact (F.place_bounds q).2
    | coe r =>
      have order : q ≤ r := WithBotTop.coe_le_coe.mp le
      exact F.placeOf_mono q.den_pos r.den_pos ((Rat.le_iff q r).mp order)

/-- A quotient stands where its fraction in lowest terms does. -/
theorem place_div (num : Int) {den : Nat} (positive : 0 < den) :
    F.place ((num / den : ℚ) : WithBotTop ℚ) = F.placeOf num den := by
  refine F.placeOf_congr (num / den : ℚ).den_pos positive ?_
  have nonzero : (den : ℚ) ≠ 0 := Nat.cast_ne_zero.mpr (Nat.ne_of_gt positive)
  have nonzero' : ((num / den : ℚ).den : ℚ) ≠ 0 := Nat.cast_ne_zero.mpr (num / den : ℚ).den_nz
  have same : ((num / den : ℚ).num : ℚ) / (num / den : ℚ).den = num / den := Rat.num_div_den _
  rw [div_eq_div_iff nonzero' nonzero] at same
  exact_mod_cast same

end Format

/-! ## Exact values of binary numbers -/

namespace Binary

variable {F G : Format}

/-- The exact value of a number; "not a number" has none. -/
def exactValue? : Binary F → Option (WithBotTop ℚ)
  | nan => none
  | ordered negative rank =>
    some (if rank.val < F.infinity then
      ((units F negative rank / 2 ^ F.leastExponent : ℚ) : WithBotTop ℚ)
    else if negative then ⊥ else ⊤)

/-- Where a number stands among those of its format, counted from zero. -/
def place? : Binary F → Option Int
  | nan => none
  | ordered negative rank => some (signedRank negative rank)

/-- Every number has an exact value. -/
theorem exists_exactValue? {x : Binary F} (number : x ≠ nan) : ∃ A, x.exactValue? = some A := by
  cases x with
  | nan => exact absurd rfl number
  | ordered negative rank => exact ⟨_, rfl⟩

/-- Every number has a place. -/
theorem exists_place? {x : Binary F} (number : x ≠ nan) : ∃ p, x.place? = some p := by
  cases x with
  | nan => exact absurd rfl number
  | ordered negative rank => exact ⟨_, rfl⟩

theorem place?_ofRank (negative : Bool) (rank : Nat) :
    (ofRank F negative rank).place? = some (signedRank negative (min rank F.infinity)) := rfl

/-- Numbers of one format compare as their places do. -/
theorem compare_of_place? {x y : Binary F} {p q : Int} (here : x.place? = some p)
    (there : y.place? = some q) : x.compare y = some (cmp p q) := by
  cases x with
  | nan => cases here
  | ordered s a =>
    cases y with
    | nan => cases there
    | ordered t b =>
      cases here
      cases there
      exact congrArg some (cmp_eq_compare _ _).symm

/-- A magnitude with a sign stands at the rank that it is rounded to, on the side of its sign. -/
theorem placeOf_units (negative : Bool) (rank den : Nat) :
    G.placeOf (units F negative rank) den =
      signedRank negative (G.nearestRank (F.magnitude rank) den) := by
  cases negative with
  | false => exact G.placeOf_of_nonneg (Int.natCast_nonneg _) den
  | true =>
    have nonpos : -(F.magnitude rank : Int) ≤ 0 := by omega
    have placed := G.placeOf_of_nonpos nonpos den
    rw [Int.natAbs_neg] at placed
    exact placed

/-- So does the exact value that it stands for in units of the smallest number. -/
theorem place_units (negative : Bool) (rank : Nat) :
    G.place ((units F negative rank / 2 ^ F.leastExponent : ℚ) : WithBotTop ℚ) =
      signedRank negative (G.nearestRank (F.magnitude rank) (2 ^ F.leastExponent)) := by
  have positive : 0 < 2 ^ F.leastExponent := Nat.pow_pos (by decide)
  have placed := G.place_div (units F negative rank) positive
  rw [placeOf_units] at placed
  push_cast at placed
  exact placed

/-- A number with an exact value is finite, or it is an infinity. -/
theorem exactValue?_cases {x : Binary F} {A : WithBotTop ℚ} (value : x.exactValue? = some A) :
    ∃ negative rank, x = ordered negative rank ∧
      (rank.val < F.infinity ∧ A = ((units F negative rank / 2 ^ F.leastExponent : ℚ)) ∨
        rank.val = F.infinity ∧ A = if negative then ⊥ else ⊤) := by
  cases x with
  | nan => cases value
  | ordered negative rank =>
    refine ⟨negative, rank, rfl, ?_⟩
    dsimp only [exactValue?] at value
    split at value
    · next finite =>
      cases value
      exact .inl ⟨finite, rfl⟩
    · next infinite =>
      cases value
      exact .inr ⟨by omega, rfl⟩

/-- The infinities stand where their exact values do. -/
theorem signedRank_infinity (negative : Bool) :
    signedRank negative F.infinity = F.place (if negative then ⊥ else ⊤) := by
  cases negative <;> rfl

/-- A number stands where its exact value does. -/
theorem place?_eq {x : Binary F} {A : WithBotTop ℚ} (value : x.exactValue? = some A) :
    x.place? = some (F.place A) := by
  obtain ⟨negative, rank, rfl, ⟨finite, rfl⟩ | ⟨infinite, rfl⟩⟩ := exactValue?_cases value
  · have own : F.nearestRank (F.magnitude rank) (2 ^ F.leastExponent) = rank := by
      rw [Format.nearestRank, F.rankNear_of_magnitude (Nat.pow_pos (by decide)) rfl]
      omega
    rw [place_units, own]
    rfl
  · rw [← signedRank_infinity, ← infinite]
    rfl

/-- A number that is converted stands where its exact value does. -/
theorem place?_convert {x : Binary F} {A : WithBotTop ℚ} (value : x.exactValue? = some A) :
    (x.convert G).place? = some (G.place A) := by
  obtain ⟨negative, rank, rfl, ⟨finite, rfl⟩ | ⟨infinite, rfl⟩⟩ := exactValue?_cases value
  · rw [place_units, convert, if_pos finite]
    rfl
  · rw [← signedRank_infinity, convert, if_neg (by omega), place?_ofRank, Nat.min_self]

/-- An integer that is converted stands where it does. -/
theorem place?_ofInt (i : Int) : (ofInt F i).place? = some (F.place ((i : ℚ) : WithBotTop ℚ)) := by
  have placed : F.place ((i : ℚ) : WithBotTop ℚ) = F.placeOf i 1 := rfl
  rw [placed]
  rfl

/-! ### Numbers that a format has -/

theorem units_zero (negative : Bool) : units F negative 0 = 0 := by
  have zero : F.magnitude 0 = 0 := if_pos F.binade_pos
  cases negative <;> simp [units, zero]

/-- Where a number stands tells its exact value, if the format has any finite number. -/
theorem exactValue?_congr (proper : 0 < F.infinity) {x y : Binary F} {p : Int}
    (here : x.place? = some p) (there : y.place? = some p) : x.exactValue? = y.exactValue? := by
  cases x with
  | nan => cases here
  | ordered s a =>
    cases y with
    | nan => cases there
    | ordered t b =>
      have same : signedRank s a = signedRank t b :=
        (Option.some.inj here).trans (Option.some.inj there).symm
      -- Only the zeros stand together without being the same.
      by_cases sign : s = t
      · have rank : a = b := by
          subst sign
          cases s <;> simp only [signedRank] at same <;> exact Fin.ext (by simpa using same)
        rw [sign, rank]
      · have zeros : a.val = 0 ∧ b.val = 0 := by
          cases s <;> cases t <;>
            simp only [signedRank, if_true, Bool.false_eq_true, if_false, not_true] at sign same <;>
            omega
        rw [exactValue?, exactValue?, zeros.1, zeros.2, if_pos proper, if_pos proper, units_zero,
          units_zero]

/-- Numbers of one format are in the order of their exact values. -/
theorem compare_eq_cmp (proper : 0 < F.infinity) {x y : Binary F} {A B : WithBotTop ℚ}
    (here : x.exactValue? = some A) (there : y.exactValue? = some B) :
    x.compare y = some (cmp A B) := by
  have apart (ne : A ≠ B) : F.place A ≠ F.place B := by
    intro same
    have equal := exactValue?_congr proper (place?_eq here) (same ▸ place?_eq there)
    rw [here, there] at equal
    exact ne (Option.some.inj equal)
  rw [compare_of_place? (place?_eq here) (place?_eq there)]
  congr 1
  rcases lt_trichotomy A B with less | equal | greater
  · have placed := lt_of_le_of_ne (F.place_mono less.le) (apart less.ne)
    rw [(cmp_eq_lt_iff A B).mpr less, (cmp_eq_lt_iff _ _).mpr placed]
  · rw [equal, cmp_self_eq_eq, cmp_self_eq_eq]
  · have placed := lt_of_le_of_ne (F.place_mono greater.le) (apart greater.ne').symm
    rw [(cmp_eq_gt_iff A B).mpr greater, (cmp_eq_gt_iff _ _).mpr placed]

/-- A quotient that is a magnitude of the format is not changed by rounding. -/
theorem exactValue?_ofRatio (negative : Bool) {num den rank : Nat} (positive : 0 < den)
    (finite : rank < F.infinity)
    (exact : F.magnitude rank * den = num * 2 ^ F.leastExponent) :
    (ofRatio F negative num den).exactValue? =
      some (((if negative then -num else num : Int) / den : ℚ) : WithBotTop ℚ) := by
  have rounded : ofRatio F negative num den = ordered negative ⟨rank, by omega⟩ := by
    refine congrArg (ordered negative) (Fin.ext ?_)
    show min (F.rankNear (num * 2 ^ F.leastExponent) den) F.infinity = rank
    rw [F.rankNear_of_magnitude positive exact]
    omega
  have denNonzero : (den : ℚ) ≠ 0 := Nat.cast_ne_zero.mpr (Nat.ne_of_gt positive)
  have stepsNonzero : (2 ^ F.leastExponent : ℚ) ≠ 0 := pow_ne_zero _ two_ne_zero
  have scaled : (F.magnitude rank : ℚ) * den = num * 2 ^ F.leastExponent := by exact_mod_cast exact
  rw [rounded, exactValue?, if_pos finite]
  congr 2
  rw [div_eq_div_iff stepsNonzero denNonzero]
  cases negative with
  | false => simpa [units] using scaled
  | true => simpa [units] using scaled

/-- A number that is converted to a wider format keeps its exact value. -/
theorem exactValue?_convert (longer : F.binade ≤ G.binade)
    (finer : F.leastExponent ≤ G.leastExponent)
    (larger : F.magnitude F.infinity * 2 ^ (G.leastExponent - F.leastExponent) ≤
      G.magnitude G.infinity) (x : Binary F) : (x.convert G).exactValue? = x.exactValue? := by
  cases x with
  | nan => rfl
  | ordered negative rank =>
    by_cases finite : rank.val < F.infinity
    · obtain ⟨wide, inRange, same⟩ := Format.exists_magnitude_widened longer finer larger finite
      rw [convert, exactValue?, if_pos finite, if_pos finite, Nat.pow_eq,
        exactValue?_ofRatio negative (Nat.pow_pos (by decide)) inRange same, Nat.cast_pow,
        Nat.cast_ofNat]
      rfl
    · rw [convert, if_neg finite, exactValue?, if_neg finite, ofRank, exactValue?]
      simp

/-- Nothing is lost when a number of single precision is converted to double precision. -/
theorem exactValue?_convert_double (x : Single) : (x.convert .double).exactValue? = x.exactValue? :=
  exactValue?_convert (by decide) (by decide) (by decide +kernel) x

/-- A format has the integers with no more bits than its magnitudes have leading ones. -/
theorem exactValue?_ofInt {i : Int} (fits : i.natAbs ≤ 2 * F.binade)
    (inRange : 2 * F.binade * 2 ^ F.leastExponent < F.magnitude F.infinity) :
    (ofInt F i).exactValue? = some ((i : ℚ) : WithBotTop ℚ) := by
  obtain ⟨rank, exact⟩ := F.exists_magnitude_eq fits F.leastExponent
  have finite : rank < F.infinity := by
    rw [← F.magnitude_lt_iff, exact]
    exact Nat.lt_of_le_of_lt (Nat.mul_le_mul_right _ fits) inRange
  have whole : (if decide (i < 0) then -(i.natAbs : Int) else i.natAbs) = i := by
    simp only [decide_eq_true_eq]
    split <;> omega
  rw [ofInt, exactValue?_ofRatio _ Nat.one_pos finite (by rw [Nat.mul_one, exact]), whole,
    Nat.cast_one, div_one]

/-- Single precision has every integer of a magnitude of at most `2 ^ 24`. -/
theorem exactValue?_ofInt_single {i : Int} (small : i.natAbs ≤ 2 ^ 24) :
    (ofInt .single i).exactValue? = some ((i : ℚ) : WithBotTop ℚ) :=
  exactValue?_ofInt small (by decide +kernel)

/-- Double precision has every integer of a magnitude of at most `2 ^ 53`. -/
theorem exactValue?_ofInt_double {i : Int} (small : i.natAbs ≤ 2 ^ 53) :
    (ofInt .double i).exactValue? = some ((i : ℚ) : WithBotTop ℚ) :=
  exactValue?_ofInt small (by decide +kernel)

end Binary

end ActiveRules
