import Mathlib.Algebra.Group.Nat.Defs
import ActiveRules.Text.Numeral

/-!
# Numerals spell the number that they are written for

The digits of a natural number spell that number again, and a run of digits splits into a leading
and a trailing part the way positional notation says.

## Main definitions

* `Numeral.IsRun`: a text that is digits only, one at least.

## Main statements

* `Numeral.value_append`: the value of a run from the values of its two parts.
* `Numeral.value_leftpad`: zeros in front are worth nothing.
* `Numeral.value_digits`: reading a number from its digits.
* `Numeral.length_digits_le`: how many digits a bounded number has at most.
-/

namespace ActiveRules.Numeral

/-- Digits only, and at least one of them. -/
structure IsRun (text : List Char) : Prop where
  ne_nil : text ≠ []
  isDigit : ∀ c ∈ text, c.isDigit = true

theorem IsRun.append {left right : List Char} (leading : IsRun left)
    (trailing : ∀ c ∈ right, c.isDigit = true) : IsRun (left ++ right) := by
  refine ⟨?_, ?_⟩
  · intro empty
    exact leading.ne_nil (List.append_eq_nil_iff.mp empty).1
  · intro c member
    rcases List.mem_append.mp member with inLeft | inRight
    · exact leading.isDigit c inLeft
    · exact trailing c inRight

theorem isDigit_takeWhile (text : List Char) :
    ∀ c ∈ text.takeWhile Char.isDigit, c.isDigit = true :=
  fun c member => List.all_eq_true.mp List.all_takeWhile c member

/-- The digits that a text begins with are a run, if there is one. -/
theorem isRun_takeWhile {text : List Char} (digit : text.head?.any Char.isDigit = true) :
    IsRun (text.takeWhile Char.isDigit) := by
  refine ⟨?_, isDigit_takeWhile text⟩
  cases text with
  | nil => cases digit
  | cons c tail =>
    have digitHere : c.isDigit = true := digit
    rw [List.takeWhile_cons, digitHere]
    exact List.cons_ne_nil _ _

/-! ## Single digits -/

theorem isDigit_digit {n : Nat} (below : n < 10) : (digit n).isDigit = true := by
  have table : ∀ k : Fin 10, (digit k.val).isDigit = true := by decide
  exact table ⟨n, below⟩

theorem digitValue_digit {n : Nat} (below : n < 10) : digitValue (digit n) = n := by
  have table : ∀ k : Fin 10, digitValue (digit k.val) = k.val := by decide
  exact table ⟨n, below⟩

/-! ## The value of a run -/

/-- Reading on from a number moves that number up by as many places as digits follow. -/
theorem foldl_value (text : List Char) (front : Nat) :
    text.foldl (fun n c => 10 * n + digitValue c) front =
      front * 10 ^ text.length + value text := by
  induction text generalizing front with
  | nil => simp [value]
  | cons c rest ih =>
    have expand : value (c :: rest) = digitValue c * 10 ^ rest.length + value rest := by
      rw [value, List.foldl_cons, ih]
      simp
    rw [List.foldl_cons, ih, expand, List.length_cons, Nat.pow_succ, Nat.add_mul]
    rw [show 10 * front * 10 ^ rest.length = front * (10 ^ rest.length * 10) by
      rw [Nat.mul_comm 10 front, Nat.mul_assoc, Nat.mul_comm 10]]
    omega

/-- The value of a run from the values of its two parts. -/
theorem value_append (left right : List Char) :
    value (left ++ right) = value left * 10 ^ right.length + value right := by
  rw [value, List.foldl_append, foldl_value]
  rfl

theorem value_singleton (c : Char) : value [c] = digitValue c := by
  simp [value]

/-- A run of zeros is worth nothing, however long it is. -/
theorem value_replicate_zero (count : Nat) : value (List.replicate count '0') = 0 := by
  induction count with
  | zero => rfl
  | succ count ih =>
    rw [List.replicate_succ', value_append, ih, value_singleton]
    rfl

theorem isDigit_replicate_zero (count : Nat) :
    ∀ c ∈ List.replicate count '0', c.isDigit = true := by
  intro c member
  rw [(List.mem_replicate.mp member).2]
  rfl

/-- Padding with zeros in front changes no value ... -/
theorem value_leftpad (places : Nat) (run : List Char) :
    value (run.leftpad places '0') = value run := by
  rw [List.leftpad, value_append, value_replicate_zero, Nat.zero_mul, Nat.zero_add]

/-- ... and leaves a run of digits one. -/
theorem isDigit_leftpad (places : Nat) {run : List Char} (digits : ∀ c ∈ run, c.isDigit = true) :
    ∀ c ∈ run.leftpad places '0', c.isDigit = true := by
  intro c member
  rcases List.mem_append.mp member with padding | inside
  · exact isDigit_replicate_zero _ c padding
  · exact digits c inside

theorem length_leftpad {places : Nat} {run : List Char} (fits : run.length ≤ places) :
    (run.leftpad places '0').length = places := by
  rw [List.leftpad, List.length_append, List.length_replicate]
  omega

/-! ## The digits of a number -/

/-- Reading a number from its digits. -/
theorem value_digits (n : Nat) : value (digits n) = n := by
  fun_induction digits n with
  | case1 n below => rw [value_singleton, digitValue_digit below]
  | case2 n _ ih =>
    rw [value_append, ih, value_singleton, digitValue_digit (Nat.mod_lt n (by decide))]
    have division := Nat.div_add_mod n 10
    simp only [List.length_singleton, Nat.pow_one]
    omega

theorem isRun_digits (n : Nat) : IsRun (digits n) := by
  fun_induction digits n with
  | case1 n below => exact ⟨by simp, by simpa using isDigit_digit below⟩
  | case2 n _ ih =>
    refine ih.append ?_
    intro c member
    rw [List.mem_singleton.mp member]
    exact isDigit_digit (Nat.mod_lt n (by decide))

/-- A number below a power of ten has no more digits than that power has zeros. -/
theorem length_digits_le {n places : Nat} (positive : 0 < places) (below : n < 10 ^ places) :
    (digits n).length ≤ places := by
  fun_induction digits n generalizing places with
  | case1 n _ => exact positive
  | case2 n large ih =>
    obtain ⟨fewer, rfl⟩ : ∃ fewer, places = fewer + 1 := ⟨places - 1, by omega⟩
    have quotient : n / 10 < 10 ^ fewer := by
      rw [Nat.pow_succ] at below
      exact Nat.div_lt_of_lt_mul (by rw [Nat.mul_comm]; exact below)
    have someLeft : 0 < fewer := by
      rcases Nat.eq_zero_or_pos fewer with rfl | left
      · simp only [Nat.pow_zero] at quotient
        omega
      · exact left
    have shorter := ih someLeft quotient
    simp only [List.length_append, List.length_singleton]
    omega

end ActiveRules.Numeral
