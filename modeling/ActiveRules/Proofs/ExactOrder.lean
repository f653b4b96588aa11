import ActiveRules.Proofs.Coherence
import ActiveRules.Proofs.ExactValues
import Mathlib.Logic.Relation

/-!
# Comparisons and the exact order

Numbers of different kinds are compared after one of them is rounded, or both are, and which
rounding it is depends on the two kinds.  So numbers that differ may be said to be equal, and what
is said to be equal to the same need not be equal.  But the order of two numbers is never inverted.

## Main definitions

* `Value.exactValue?`: the exact value of a number, of whatever kind.
* `Heeds`: an order that is never against the exact one.
* `Value.Commensurable`: pairs that nothing is lost of before they are compared.
* `Value.Ascends`: a pair of numbers, or of strings, in ascending order.

## Main statements

* `Value.order?_heeds`: two numbers are compared in heed of the exact order.
* `Value.order?_of_commensurable`: some pairs are compared exactly.
* `Value.ascends_of_chain`: a chain of comparisons ascends.
* `Value.comparisons_heed_exact_order`: comparisons of numbers against their exact order.
-/

namespace ActiveRules

/-! ## Exact values of values -/

/-- An order that two numbers are said to stand in is never against their exact order.  It need
not be the exact one: numbers that differ may be said to be equal. -/
structure Heeds (order : Ordering) (A B : WithBotTop ℚ) : Prop where
  less : order = .lt → A < B
  greater : order = .gt → B < A
  equal : A = B → order = .eq

theorem Heeds.of_cmp (A B : WithBotTop ℚ) : Heeds (cmp A B) A B where
  less := (cmp_eq_lt_iff A B).mp
  greater := (cmp_eq_gt_iff A B).mp
  equal := (cmp_eq_eq_iff A B).mpr

/-- Numbers that are compared by their places in a format are compared in heed of the exact order,
whatever format that is. -/
theorem Heeds.of_place (F : Format) (A B : WithBotTop ℚ) :
    Heeds (cmp (F.place A) (F.place B)) A B where
  less placed := F.place_mono.reflect_lt ((cmp_eq_lt_iff _ _).mp placed)
  greater placed := F.place_mono.reflect_lt ((cmp_eq_gt_iff _ _).mp placed)
  equal same := by rw [same, cmp_self_eq_eq]

namespace Value

/-- The exact value of a number; other values have none. -/
def exactValue? : Value → Option (WithBotTop ℚ)
  | int i => some ((i.toInt : ℚ) : WithBotTop ℚ)
  | single x => x.exactValue?
  | double x => x.exactValue?
  | _ => none

/-- Pairs of numbers that nothing is lost of before they are compared. -/
inductive Commensurable : Value → Value → Prop
  | ints (i j : Int64) : Commensurable (int i) (int j)
  | singles (x y : Single) : Commensurable (single x) (single y)
  | doubles (x y : Double) : Commensurable (double x) (double y)
  | intDouble {i : Int64} (small : i.toInt.natAbs ≤ 2 ^ 53) (x : Double) :
    Commensurable (int i) (double x)
  | doubleInt (x : Double) {i : Int64} (small : i.toInt.natAbs ≤ 2 ^ 53) :
    Commensurable (double x) (int i)

variable {a b : Value} {A B : WithBotTop ℚ}

theorem exists_double (value : a.exactValue? = some A) :
    ∃ x, a.double? = some x ∧ x.place? = some (Format.double.place A) := by
  cases a with
  | int i =>
    cases value
    exact ⟨_, rfl, Binary.place?_ofInt i.toInt⟩
  | single x => exact ⟨_, rfl, Binary.place?_convert value⟩
  | double x => exact ⟨_, rfl, Binary.place?_eq value⟩
  | bool | string => cases value

theorem doubleOrder?_eq (here : a.exactValue? = some A) (there : b.exactValue? = some B) :
    doubleOrder? a b = some (cmp (Format.double.place A) (Format.double.place B)) := by
  obtain ⟨x, isX, placeX⟩ := exists_double here
  obtain ⟨y, isY, placeY⟩ := exists_double there
  rw [doubleOrder?, isX, isY]
  exact Binary.compare_of_place? placeX placeY

theorem order?_ints (i j : Int64) :
    order? (int i) (int j) = some (cmp ((i.toInt : ℚ) : WithBotTop ℚ) (j.toInt : ℚ)) := by
  have embedded : StrictMono fun n : Int => ((n : ℚ) : WithBotTop ℚ) :=
    fun _ _ less => WithBotTop.coe_lt_coe.mpr (Rat.intCast_lt_intCast.mpr less)
  exact congrArg some ((cmp_eq_compare _ _).symm.trans (embedded.cmp_map_eq _ _).symm)

/-- Two numbers are compared in heed of the exact order. -/
theorem order?_heeds (here : a.exactValue? = some A) (there : b.exactValue? = some B) :
    ∃ order, order? a b = some order ∧ Heeds order A B := by
  have inDouble : ∃ order, doubleOrder? a b = some order ∧ Heeds order A B :=
    ⟨_, doubleOrder?_eq here there, Heeds.of_place _ A B⟩
  cases a with
  | int i =>
    cases b with
    | int j =>
      cases here
      cases there
      exact ⟨_, order?_ints i j, Heeds.of_cmp _ _⟩
    | _ => exact inDouble
  | single x =>
    cases b with
    | double y =>
      exact ⟨_, Binary.compare_of_place? (Binary.place?_eq here) (Binary.place?_convert there),
        Heeds.of_place _ A B⟩
    | _ => exact inDouble
  | double x =>
    cases b with
    | single y =>
      exact ⟨_, Binary.compare_of_place? (Binary.place?_convert here) (Binary.place?_eq there),
        Heeds.of_place _ A B⟩
    | _ => exact inDouble
  | bool | string => cases here

/-- A pair that nothing is lost of is compared exactly. -/
theorem order?_of_commensurable (commensurable : a.Commensurable b) (here : a.exactValue? = some A)
    (there : b.exactValue? = some B) : order? a b = some (cmp A B) := by
  cases commensurable with
  | ints i j =>
    cases here
    cases there
    exact order?_ints i j
  | singles x y =>
    exact Binary.compare_eq_cmp (by decide) ((Binary.exactValue?_convert_double x).trans here)
      ((Binary.exactValue?_convert_double y).trans there)
  | doubles x y => exact Binary.compare_eq_cmp (by decide) here there
  | intDouble small x =>
    cases here
    exact Binary.compare_eq_cmp (by decide) (Binary.exactValue?_ofInt_double small) there
  | doubleInt x small =>
    cases there
    exact Binary.compare_eq_cmp (by decide) here (Binary.exactValue?_ofInt_double small)

/-! ## Chains of comparisons -/

/-- Is the first of two values said to be less? -/
def IsLess (a b : Value) : Prop := a.compare? .less b = some true

theorem order?_of_isLess (less : a.IsLess b) : order? a b = some .lt := by
  have notBools : ¬ (a.isBool = true ∧ b.isBool = true) := by
    rintro ⟨isBool, isBool'⟩
    obtain ⟨x, rfl⟩ := a.isBool_iff.mp isBool
    obtain ⟨y, rfl⟩ := b.isBool_iff.mp isBool'
    cases less
  have answer : (order? a b).bind Comparison.less.accepts? = some true :=
    (a.compare?_eq_bind b .less (by decide) notBools).symm.trans less
  obtain ⟨order, isOrder, holds⟩ := Option.bind_eq_some_iff.mp answer
  rw [isOrder]
  simpa [Comparison.accepts?] using holds

/-- A pair in ascending order: two numbers, or two strings. -/
def Ascends (a b : Value) : Prop :=
  (∃ A B, a.exactValue? = some A ∧ b.exactValue? = some B ∧ A < B) ∨
    ∃ s t, a = string s ∧ b = string t ∧ s < t

/-- A value that can be related to any is a number or a string. -/
theorem exists_exactValue?_or_string (notBool : a.isBool = false) (notNan : a.isNan = false) :
    (a.isString = false ∧ ∃ A, a.exactValue? = some A) ∨ ∃ s, a = string s := by
  have isNumber {F : Format} {x : Binary F} (notNan : x.isNan = false) :
      ∃ A, x.exactValue? = some A :=
    Binary.exists_exactValue? (mt x.isNan_iff.mpr (Bool.eq_false_iff.mp notNan))
  cases a with
  | bool x => cases notBool
  | int i => exact .inl ⟨rfl, _, rfl⟩
  | single x => exact .inl ⟨rfl, isNumber notNan⟩
  | double x => exact .inl ⟨rfl, isNumber notNan⟩
  | string s => exact .inr ⟨s, rfl⟩

theorem IsLess.ascends (less : a.IsLess b) : a.Ascends b := by
  have order := order?_of_isLess less
  have related : ¬ a.Unrelated b := by
    rw [← order?_eq_none_iff, order]
    rintro ⟨⟩
  simp only [Unrelated, not_or, Bool.not_eq_true, ne_eq, not_not] at related
  obtain ⟨notBool, notBool', together, notNan, notNan'⟩ := related
  rcases exists_exactValue?_or_string notBool notNan with ⟨notString, A, here⟩ | ⟨s, rfl⟩
  · rcases exists_exactValue?_or_string notBool' notNan' with ⟨-, B, there⟩ | ⟨t, rfl⟩
    · obtain ⟨said, isSaid, heeds⟩ := order?_heeds here there
      exact .inl ⟨A, B, here, there, heeds.less (Option.some.inj (isSaid.symm.trans order))⟩
    · cases notString.symm.trans together
  · rcases exists_exactValue?_or_string notBool' notNan' with ⟨notString, -⟩ | ⟨t, rfl⟩
    · cases together.trans notString
    · exact .inr ⟨s, t, rfl, rfl, compareOfLessAndEq_eq_lt.mp (Option.some.inj order)⟩

theorem Ascends.trans {c : Value} (left : a.Ascends b) (right : b.Ascends c) : a.Ascends c := by
  rcases left with ⟨A, B, here, there, less⟩ | ⟨s, t, rfl, rfl, less⟩
  · rcases right with ⟨B', C, here', there', less'⟩ | ⟨s, t, rfl, rfl, less'⟩
    · cases there.symm.trans here'
      exact .inl ⟨A, C, here, there', less.trans less'⟩
    · cases there
  · rcases right with ⟨B', C, here', there', less'⟩ | ⟨t', u, same, rfl, less'⟩
    · cases here'
    · cases same
      exact .inr ⟨s, u, rfl, rfl, String.lt_trans less less'⟩

theorem Ascends.irrefl : ¬ a.Ascends a := by
  rintro (⟨A, B, here, there, less⟩ | ⟨s, t, rfl, same, less⟩)
  · cases here.symm.trans there
    exact lt_irrefl _ less
  · cases same
    exact String.lt_irrefl _ less

/-- A chain of values, each of which is said to be less than the next, ascends in the exact order of
numbers or in the order of strings. -/
theorem ascends_of_chain (chain : Relation.TransGen IsLess a b) : a.Ascends b := by
  induction chain with
  | single less => exact less.ascends
  | tail chain less ih => exact ih.trans less.ascends

/-- What is said of two numbers is never against their exact order, which may involve infinities:
one is said to be less or greater only if it is, and equal numbers are said to be equal.  Numbers of
one kind, and an integer of at most `2 ^ 53` and a double-precision number, are compared exactly.
So values that are each said to be less than the next never come round in a circle. -/
theorem comparisons_heed_exact_order :
    (∀ a b A B, exactValue? a = some A → exactValue? b = some B →
      (a.compare? .less b = some true → A < B) ∧
      (a.compare? .greater b = some true → B < A) ∧
      (A = B → a.compare? .equal b = some true) ∧
      (a.Commensurable b → ∀ comparison, comparison ≠ .contains →
        a.compare? comparison b = comparison.accepts? (cmp A B))) ∧
    ∀ a, ¬ Relation.TransGen IsLess a a := by
  refine ⟨fun a b A B here there => ?_, fun a chain => (ascends_of_chain chain).irrefl⟩
  have notBools : ¬ (a.isBool = true ∧ b.isBool = true) := by
    rintro ⟨isBool, -⟩
    obtain ⟨x, rfl⟩ := a.isBool_iff.mp isBool
    cases here
  have answer (comparison : Comparison) (notContains : comparison ≠ .contains) :
      a.compare? comparison b = (order? a b).bind comparison.accepts? :=
    a.compare?_eq_bind b comparison notContains notBools
  obtain ⟨order, isOrder, heeds⟩ := order?_heeds here there
  refine ⟨fun less => ?_, fun greater => ?_, fun same => ?_,
    fun commensurable comparison ordered => ?_⟩
  · rw [answer _ (by decide), isOrder] at less
    exact heeds.less (by simpa [Comparison.accepts?] using less)
  · rw [answer _ (by decide), isOrder] at greater
    exact heeds.greater (by simpa [Comparison.accepts?] using greater)
  · rw [answer _ (by decide), isOrder, heeds.equal same]
    rfl
  · rw [answer comparison ordered, order?_of_commensurable commensurable here there]
    rfl

/-- An integer of one bit more than single precision has, the double-precision number that is equal
to it, and the single-precision number that both round to.  The second is said to be equal to
either of the others, but the first is said to be greater than the third. -/
theorem said_to_be_equal_is_not_transitive :
    let whole := int 16777217
    let number := double (.ofInt .double 16777217)
    let rounded := single (.ofInt .single 16777216)
    whole.exactValue? = some ((16777217 : ℚ) : WithBotTop ℚ) ∧
      number.exactValue? = some ((16777217 : ℚ) : WithBotTop ℚ) ∧
      rounded.exactValue? = some ((16777216 : ℚ) : WithBotTop ℚ) ∧
      whole.compare? .equal number = some true ∧ number.compare? .equal rounded = some true ∧
      whole.compare? .greater rounded = some true ∧
      ((16777216 : ℚ) : WithBotTop ℚ) < (16777217 : ℚ) ∧
      whole.Commensurable number ∧ whole.compare? .less number = some false ∧
      ¬ Relation.TransGen IsLess rounded rounded := by
  intro whole number rounded
  have exactWhole : whole.exactValue? = some ((16777217 : ℚ) : WithBotTop ℚ) := rfl
  have exactNumber : number.exactValue? = some ((16777217 : ℚ) : WithBotTop ℚ) :=
    Binary.exactValue?_ofInt_double (by decide)
  have exactRounded : rounded.exactValue? = some ((16777216 : ℚ) : WithBotTop ℚ) :=
    Binary.exactValue?_ofInt_single (by decide)
  have commensurable : whole.Commensurable number := .intDouble (by decide) _
  obtain ⟨pairs, noCircle⟩ := comparisons_heed_exact_order
  obtain ⟨-, -, equal, exactly⟩ := pairs whole number _ _ exactWhole exactNumber
  obtain ⟨-, ascending, -, -⟩ := pairs whole rounded _ _ exactWhole exactRounded
  have greater : whole.compare? .greater rounded = some true := by decide +kernel
  refine ⟨exactWhole, exactNumber, exactRounded, equal rfl, by decide +kernel, greater,
    ascending greater, commensurable, ?_, noCircle rounded⟩
  rw [exactly commensurable .less (by decide), cmp_self_eq_eq]
  rfl

end Value

end ActiveRules
