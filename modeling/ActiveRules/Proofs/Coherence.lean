import ActiveRules.Value
import Mathlib.Logic.ExistsUnique

/-!
# Comparisons agree with each other

Two values are compared along one of several routes, which depend on their kinds and on the
comparison.  All of them come to one order of the two values, or to none, and a pair that is turned
round comes to the opposite order.

## Main definitions

* `Value.Unrelated`: two values that no order relates.
* `Value.Coherent`: what the seven comparisons of two values have to do with each other.

## Main statements

* `Value.order?_swap`: the order of a pair that is turned round.
* `Value.order?_eq_none_iff`: which values are related.
* `Value.compare?_eq_bind`: every comparison but containment goes by the order of the two values.
* `Value.comparisons_are_coherent`: all values are coherent.
-/

namespace ActiveRules

/-- A text occurs in another one if it is an infix of it. -/
theorem Text.occursIn_eq_true_iff (part whole : List Char) :
    occursIn part whole = true ↔ part <:+: whole := by
  induction whole with
  | nil => simp [occursIn]
  | cons c rest ih => simp [occursIn, List.infix_cons_iff, ih]

/-! ## The order of a pair -/

namespace Binary

variable {F G : Format} (x y : Binary F)

/-- Is this "not a number"? -/
def isNan : Binary F → Bool
  | nan => true
  | ordered _ _ => false

@[simp]
theorem isNan_iff : x.isNan = true ↔ x = nan := by
  cases x <;> simp [isNan]

/-- The order of two numbers is turned round with them. -/
theorem compare_swap : y.compare x = (x.compare y).map Ordering.swap := by
  cases x with
  | nan => cases y <;> rfl
  | ordered s a =>
    cases y with
    | nan => rfl
    | ordered t b => exact congrArg some Std.OrientedCmp.eq_swap

/-- Only "not a number" has no order with a number. -/
theorem compare_eq_none_iff : x.compare y = none ↔ x = nan ∨ y = nan := by
  cases x <;> cases y <;> simp [compare]

/-- Conversion between formats makes no "not a number" of a number, nor a number of it. -/
theorem convert_eq_nan_iff : x.convert G = nan ↔ x = nan := by
  cases x with
  | nan => exact iff_of_true rfl rfl
  | ordered s a =>
    refine iff_of_false ?_ (by rintro ⟨⟩)
    unfold convert
    dsimp only
    split <;> rintro ⟨⟩

theorem ofInt_ne_nan (i : Int) : ofInt F i ≠ nan := by
  rintro ⟨⟩

end Binary

namespace Value

/-- Is this a truth value? -/
def isBool : Value → Bool
  | bool _ => true
  | _ => false

theorem isBool_iff (a : Value) : a.isBool = true ↔ ∃ x, a = bool x := by
  cases a <;> simp [isBool]

/-- Is this a string? -/
def isString : Value → Bool
  | string _ => true
  | _ => false

/-- Is this "not a number"? -/
def isNan : Value → Bool
  | single x => x.isNan
  | double x => x.isNan
  | _ => false

/-- No order relates two values if one is a truth value or "not a number", or if one of them is a
string and the other is not. -/
def Unrelated (a b : Value) : Prop :=
  a.isBool = true ∨ b.isBool = true ∨ a.isString ≠ b.isString ∨ a.isNan = true ∨ b.isNan = true

/-- The order of two values in double precision, the route of most pairs. -/
def doubleOrder? (a b : Value) : Option Ordering := do
  Binary.compare (← a.double?) (← b.double?)

/-- The order in which numbers of any kind are compared is turned round with them. -/
theorem doubleOrder?_swap (a b : Value) :
    doubleOrder? b a = (doubleOrder? a b).map Ordering.swap := by
  unfold doubleOrder?
  cases a.double? with
  | none => cases b.double? <;> rfl
  | some x =>
    cases b.double? with
    | none => rfl
    | some y => exact x.compare_swap y

/-- Turning a pair round turns its order round. -/
theorem order?_swap (a b : Value) : order? b a = (order? a b).map Ordering.swap := by
  -- A pair of one single- and one double-precision number is compared in single precision either
  -- way; the routes of all other pairs do not tell the two sides apart.
  cases a with
  | bool x => cases b <;> exact doubleOrder?_swap _ _
  | int i =>
    cases b with
    | int j => exact congrArg some Std.OrientedCmp.eq_swap
    | _ => exact doubleOrder?_swap _ _
  | single x =>
    cases b with
    | double y => exact Binary.compare_swap _ _
    | _ => exact doubleOrder?_swap _ _
  | double x =>
    cases b with
    | single y => exact Binary.compare_swap _ _
    | _ => exact doubleOrder?_swap _ _
  | string s =>
    cases b with
    | string t => exact congrArg some Std.OrientedCmp.eq_swap
    | _ => exact doubleOrder?_swap _ _

/-- Exactly the unrelated values have no order. -/
theorem order?_eq_none_iff (a b : Value) : order? a b = none ↔ Unrelated a b := by
  cases a <;> cases b <;>
    simp [order?, double?, Unrelated, isBool, isString, isNan, Binary.compare_eq_none_iff,
      Binary.convert_eq_nan_iff, Binary.ofInt_ne_nan]

/-! ## Comparisons by order -/

variable (a b : Value) (comparison : Comparison)

/-- Comparisons other than containment go by the order of two values, unless both are truth
values. -/
theorem compare?_eq_bind (notContains : comparison ≠ .contains)
    (notBools : ¬ (a.isBool = true ∧ b.isBool = true)) :
    a.compare? comparison b = (order? a b).bind comparison.accepts? := by
  cases a with
  | bool x =>
    cases b with
    | bool y => exact absurd ⟨rfl, rfl⟩ notBools
    | _ => cases comparison <;> rfl
  | _ =>
    cases comparison with
    | contains => exact absurd rfl notContains
    | _ => cases b <;> rfl

/-- Containment is defined for two strings. -/
theorem contains_isSome_iff : (a.compare? .contains b).isSome = true ↔
    ∃ whole part, a = .string whole ∧ b = .string part := by
  cases a <;> cases b <;> simp [compare?]

/-- One text contains another one if that is an infix of it, and no other values contain each other.
-/
theorem contains_iff : a.compare? .contains b = some true ↔
    ∃ whole part, a = .string whole ∧ b = .string part ∧ part.toList <:+: whole.toList := by
  cases a <;> cases b <;> simp [compare?, Text.occursIn_eq_true_iff]

end Value

/-- The one of three comparisons that holds for two sides in this order. -/
def Comparison.ofOrdering : Ordering → Comparison
  | .lt => less
  | .eq => equal
  | .gt => greater

/-- Of the three comparisons that exclude each other, exactly the one of its name accepts an
order. -/
theorem Comparison.accepts?_eq_true_iff {comparison : Comparison}
    (exclusive : comparison ∈ [less, equal, greater]) (order : Ordering) :
    comparison.accepts? order = some true ↔ comparison = ofOrdering order := by
  cases comparison <;> cases order <;> simp [accepts?, ofOrdering] at *

namespace Value

/-! ## What comparisons have to do with each other -/

/-- What the seven comparisons of two values have to do with each other, and with those of the
same two values the other way round. -/
structure Coherent (a b : Value) : Prop where
  unequal : a.compare? .unequal b = (a.compare? .equal b).map not
  greater : a.compare? .greater b = b.compare? .less a
  atLeast : a.compare? .atLeast b = b.compare? .atMost a
  equal_symm : a.compare? .equal b = b.compare? .equal a
  unequal_symm : a.compare? .unequal b = b.compare? .unequal a
  exclusive : (a.compare? .less b).isSome = true →
    ∃! comparison, comparison ∈ [.less, .equal, .greater] ∧ a.compare? comparison b = some true
  atLeast_eq_not_less : a.compare? .atLeast b = (a.compare? .less b).map not
  atMost_eq_not_greater : a.compare? .atMost b = (a.compare? .greater b).map not
  less_eq_none_iff : a.compare? .less b = none ↔ Unrelated a b
  equal_eq_none_iff :
    a.compare? .equal b = none ↔ Unrelated a b ∧ ¬ (a.isBool = true ∧ b.isBool = true)
  contains_isSome_iff :
    (a.compare? .contains b).isSome = true ↔ ∃ whole part, a = .string whole ∧ b = .string part
  contains_iff : a.compare? .contains b = some true ↔
    ∃ whole part, a = .string whole ∧ b = .string part ∧ part.toList <:+: whole.toList

/-- Truth values are equal or not, and have no order. -/
theorem coherent_bool (x y : Bool) : Coherent (bool x) (bool y) where
  unequal := by cases x <;> cases y <;> rfl
  greater := rfl
  atLeast := rfl
  equal_symm := by cases x <;> cases y <;> rfl
  unequal_symm := by cases x <;> cases y <;> rfl
  exclusive := by rintro ⟨⟩
  atLeast_eq_not_less := rfl
  atMost_eq_not_greater := rfl
  less_eq_none_iff := iff_of_true rfl (.inl rfl)
  equal_eq_none_iff := iff_of_false (by rintro ⟨⟩) fun undefined => undefined.2 ⟨rfl, rfl⟩
  contains_isSome_iff := contains_isSome_iff _ _
  contains_iff := contains_iff _ _

/-- Comparisons of values that are not both truth values are read off their order. -/
theorem coherent_of_not_bools {a b : Value} (notBools : ¬ (a.isBool = true ∧ b.isBool = true)) :
    Coherent a b := by
  have forth {comparison : Comparison} (notContains : comparison ≠ .contains) :
      a.compare? comparison b = (order? a b).bind comparison.accepts? :=
    a.compare?_eq_bind b comparison notContains notBools
  have back {comparison : Comparison} (notContains : comparison ≠ .contains) :
      b.compare? comparison a = ((order? a b).map Ordering.swap).bind comparison.accepts? := by
    rw [b.compare?_eq_bind a comparison notContains fun bools => notBools bools.symm, order?_swap]
  have related := order?_eq_none_iff a b
  generalize order? a b = answer at forth back related
  refine ⟨?unequal, ?greater, ?atLeast, ?equalSymm, ?unequalSymm, ?exclusive, ?notLess, ?notGreater,
    ?lessUndefined, ?equalUndefined, contains_isSome_iff a b, contains_iff a b⟩
  case unequal =>
    rw [forth (by decide), forth (by decide)]
    cases answer <;> rfl
  case greater | atLeast | equalSymm | unequalSymm =>
    rw [forth (by decide), back (by decide)]
    rcases answer with _ | ⟨_ | _ | _⟩ <;> rfl
  case exclusive =>
    intro defined
    cases answer with
    | none =>
      rw [forth (by decide)] at defined
      cases defined
    | some order =>
      have holds {comparison : Comparison} (member : comparison ∈ [.less, .equal, .greater]) :
          a.compare? comparison b = some true ↔ comparison = .ofOrdering order := by
        rw [forth (by rintro rfl; simp at member)]
        exact Comparison.accepts?_eq_true_iff member order
      have member : Comparison.ofOrdering order ∈ [.less, .equal, .greater] := by
        cases order <;> decide
      exact ⟨.ofOrdering order, ⟨member, (holds member).mpr rfl⟩,
        fun other does => (holds does.1).mp does.2⟩
  case notLess | notGreater =>
    rw [forth (by decide), forth (by decide)]
    rcases answer with _ | ⟨_ | _ | _⟩ <;> rfl
  case lessUndefined =>
    rw [forth (by decide), ← related]
    cases answer <;> simp [Comparison.accepts?]
  case equalUndefined =>
    rw [forth (by decide), ← related, and_iff_left notBools]
    cases answer <;> simp [Comparison.accepts?]

/-- The seven comparisons of any two values are coherent. -/
theorem comparisons_are_coherent (a b : Value) : Coherent a b := by
  by_cases bools : a.isBool = true ∧ b.isBool = true
  · obtain ⟨x, rfl⟩ := a.isBool_iff.mp bools.1
    obtain ⟨y, rfl⟩ := b.isBool_iff.mp bools.2
    exact coherent_bool x y
  · exact coherent_of_not_bools bools

end Value

end ActiveRules
