import ActiveRules.Proofs.NearestNumbers
import ActiveRules.Proofs.Tiling
import Mathlib.Data.Nat.Digits.Defs

/-!
# What number literals spell

A number literal is a minus, if there is one, then digits, and then, if a point follows, the point
and more digits.  It goes on as long as it can.  Without a point it is an integer, which is read
exactly or not at all.  With a point it is a number that is rounded to the nearest, in single
precision if an `f` follows directly and else in double precision.

## Main definitions

* `NumberLiteral`: a number literal in parts, without the suffix.
* `NumberLiteral.magnitude`, `NumberLiteral.value`: what the digits stand for, as a rational.
* `NumberLiteral.Begins`: a literal is all that a text begins with.
* `NumberLiteral.ReadAs`: the token that a literal is read as, by what follows it.

## Main statements

* `NumberLiteral.magnitude_eq`: the digits of a literal as a quotient of naturals.
* `StartsNumber.exists_begins`: a literal begins where a digit or a minus before one stands.
* `NumberLiteral.Begins.readAs`: what is found where a literal begins.
* `number_tokens_mean_what_they_spell`: which tokens of a text are numbers, and what they are worth.
-/

namespace ActiveRules

/-! ## Digits in positional notation -/

namespace Numeral

theorem value_cons (c : Char) (run : List Char) :
    value (c :: run) = digitValue c * 10 ^ run.length + value run := by
  rw [← List.singleton_append, value_append, value_singleton]

/-- The last digit of a run counts ones, and each digit in front of it ten times as much as the one
behind it. -/
theorem value_eq_ofDigits (run : List Char) :
    value run = Nat.ofDigits 10 (run.map digitValue).reverse := by
  induction run with
  | nil => rfl
  | cons c run ih =>
    rw [value_cons, ih, List.map_cons, Nat.ofDigits_reverse_cons, List.length_map, Nat.add_comm,
      Nat.mul_comm]

/-- Behind a point the first digit counts tenths, and each digit a tenth of what the one in front of
it does. -/
theorem tenths_eq (run : List Char) :
    Nat.ofDigits (1 / 10 : ℚ) (0 :: run.map digitValue) = value run / 10 ^ run.length := by
  have tenth (digits : List Nat) : Nat.ofDigits (1 / 10 : ℚ) (0 :: digits) =
      1 / 10 * Nat.ofDigits (1 / 10 : ℚ) digits := by
    rw [Nat.ofDigits, Nat.cast_zero, zero_add]
  induction run with
  | nil => simp [Nat.ofDigits, value]
  | cons c run ih =>
    rw [tenth] at ih ⊢
    rw [List.map_cons, Nat.ofDigits, ih, value_cons, List.length_cons, pow_succ]
    push_cast
    field_simp

end Numeral

/-! ## Literals -/

/-- A number literal in parts: whether it has a minus, the digits in front of the point, and, if it
has a point, the digits behind it, which may be none. -/
structure NumberLiteral where
  negative : Bool
  whole : List Char
  fraction? : Option (List Char)
  /-- There is a digit in front of the point. -/
  isRun : Numeral.IsRun whole
  /-- Behind the point there are only digits. -/
  isDigit : ∀ fraction ∈ fraction?, ∀ c ∈ fraction, c.isDigit = true

namespace NumberLiteral

variable (literal : NumberLiteral)

/-- The digits behind the point. -/
def fraction : List Char := literal.fraction?.getD []

/-- The literal as it is written, without a suffix. -/
def spelling : List Char :=
  Numeral.sign literal.negative ++ literal.whole ++ literal.fraction?.elim [] ('.' :: ·)

/-- What the digits stand for: ones, tens and so on in front of the point, and tenths, hundredths
and so on behind it. -/
def magnitude : ℚ :=
  Nat.ofDigits (10 : ℚ) (literal.whole.map Numeral.digitValue).reverse +
    Nat.ofDigits (1 / 10 : ℚ) (0 :: literal.fraction.map Numeral.digitValue)

/-- What the literal stands for. -/
def value : ℚ := if literal.negative then -literal.magnitude else literal.magnitude

/-- The value is in the range of integers of sixty-four bits. -/
def InRange : Prop := -2 ^ 63 ≤ literal.value ∧ literal.value ≤ 2 ^ 63 - 1

/-- The number that the literal, without a suffix, is read as in a format. -/
def number (F : Format) : Binary F :=
  .ofNumeral F literal.negative literal.whole literal.fraction

/-- The integer that the digits in front of the point are read as. -/
def integer : Int :=
  if literal.negative then -(Numeral.value literal.whole : Int) else Numeral.value literal.whole

/-- A literal is all that a text begins with, up to what is left of the text: the digits do not go
on there, and where the literal has no point, none follows. -/
structure Begins (text rest : List Char) : Prop where
  parts : text = literal.spelling ++ rest
  noDigit : Stops Char.isDigit rest
  noPoint : literal.fraction? = none → Stops (· == '.') rest

/-- The kind and the lexeme of the token that a literal in front of a text is read as. -/
inductive ReadAs : List Char → Kind → List Char → Prop where
  /-- A literal without a point is an integer, and worth exactly what it stands for ... -/
  | int {rest : List Char} {i : Int64} (noPoint : literal.fraction? = none)
      (exact : (i.toInt : ℚ) = literal.value) : ReadAs rest (.int i) literal.spelling
  /-- ... or it is a flaw, if it stands for no integer of sixty-four bits. -/
  | invalid {rest : List Char} (noPoint : literal.fraction? = none)
      (beyond : ¬ literal.InRange) : ReadAs rest (.flaw .invalidNumber) literal.spelling
  /-- A literal with a point and a suffix covers the suffix, and is read in single precision. -/
  | single {rest : List Char} (point : literal.fraction? ≠ none) :
      ReadAs ('f' :: rest) (.single (literal.number .single)) (literal.spelling ++ ['f'])
  /-- A literal with a point and no suffix is read in double precision. -/
  | double {rest : List Char} (point : literal.fraction? ≠ none)
      (noSuffix : Stops (· == 'f') rest) :
      ReadAs rest (.double (literal.number .double)) literal.spelling

/-! ### What literals stand for -/

/-- The digits of a literal as a quotient of naturals. -/
theorem magnitude_eq : literal.magnitude =
    (Numeral.value (literal.whole ++ literal.fraction) : ℚ) /
      (10 ^ literal.fraction.length : Nat) := by
  have ones : Nat.ofDigits (10 : ℚ) (literal.whole.map Numeral.digitValue).reverse =
      Numeral.value literal.whole := by
    rw [Numeral.value_eq_ofDigits]
    exact (Nat.coe_ofDigits ℚ 10 _).symm
  rw [magnitude, ones, Numeral.tenths_eq, Numeral.value_append]
  push_cast
  field_simp

/-- A literal is read as the number nearest to what it stands for. -/
theorem isRounded_iff {F : Format} (proper : 0 < F.fractionBits) (x : Binary F) :
    x.IsRounded literal.negative literal.magnitude ↔ x = literal.number F := by
  rw [magnitude_eq]
  exact Binary.isRounded_iff proper (Nat.pow_pos (by decide))

variable {literal}

/-- A literal without a point stands for an integer. -/
theorem value_of_noPoint (noPoint : literal.fraction? = none) :
    literal.value = (literal.integer : ℚ) := by
  have whole : literal.magnitude = Numeral.value literal.whole := by
    simp [magnitude_eq, fraction, noPoint]
  rw [value, whole, integer]
  split <;> push_cast <;> rfl

/-- The integer that a literal without a point is read as, exactly or not at all. -/
theorem readAs_ofInt (noPoint : literal.fraction? = none) (rest : List Char) :
    literal.ReadAs rest (.ofInt literal.integer) literal.spelling := by
  have worth := value_of_noPoint noPoint
  have least : Int64.minValue.toInt = -2 ^ 63 := rfl
  have largest : Int64.maxValue.toInt = 2 ^ 63 - 1 := rfl
  unfold Kind.ofInt
  rw [least, largest]
  split
  · next inRange =>
    refine .int noPoint ?_
    rw [worth, Int64.toInt_ofInt_of_le (by omega) (by omega)]
  · next outside =>
    refine .invalid noPoint fun inRange => outside ?_
    rw [InRange, worth] at inRange
    exact_mod_cast inRange

end NumberLiteral

/-! ## Where literals begin -/

/-- A text begins with a digit, or with a minus directly before a digit. -/
def StartsNumber (text : List Char) : Prop :=
  ∃ negative c rest, c.isDigit = true ∧ text = Numeral.sign negative ++ c :: rest

/-- A literal begins where a digit stands, or a minus directly before one. -/
theorem StartsNumber.exists_begins {text : List Char} (starts : StartsNumber text) :
    ∃ literal rest, NumberLiteral.Begins literal text rest := by
  obtain ⟨negative, c, tail, digit, rfl⟩ := starts
  have isRun : Numeral.IsRun ((c :: tail).takeWhile Char.isDigit) :=
    Numeral.isRun_takeWhile digit
  have parts := List.takeWhile_append_dropWhile (p := Char.isDigit) (l := c :: tail)
  have noDigit := stops_dropWhile Char.isDigit (c :: tail)
  generalize (c :: tail).takeWhile Char.isDigit = whole at isRun parts
  generalize (c :: tail).dropWhile Char.isDigit = rest at parts noDigit
  rw [← parts]
  rcases exists_cons_or_stops '.' rest with ⟨behind, rfl⟩ | noPoint
  · refine ⟨⟨negative, whole, some (behind.takeWhile Char.isDigit), isRun, ?_⟩,
      behind.dropWhile Char.isDigit, ?_, stops_dropWhile _ _, nofun⟩
    · rintro fraction ⟨⟩
      exact Numeral.isDigit_takeWhile behind
    · simp [NumberLiteral.spelling]
  · refine ⟨⟨negative, whole, none, isRun, nofun⟩, rest, ?_, noDigit, fun _ => noPoint⟩
    simp [NumberLiteral.spelling]

/-- What is found where a literal begins. -/
theorem NumberLiteral.Begins.readAs {literal : NumberLiteral} {text rest : List Char} {c : Char}
    (begins : literal.Begins (c :: text) rest) :
    literal.ReadAs rest (Scan.first c text).kind (Scan.first c text).lexeme := by
  have parts := begins.parts
  cases point : literal.fraction? with
  | none =>
    have spelled : literal.spelling = Numeral.sign literal.negative ++ literal.whole := by
      rw [spelling, point, Option.elim_none, List.append_nil]
    have reads := Scan.reads_integral literal.negative literal.isRun
      (begins.noDigit.or (begins.noPoint point))
    rw [← spelled] at reads
    rw [reads.first_eq parts]
    exact readAs_ofInt point rest
  | some fraction =>
    have digits := literal.isDigit fraction point
    have hasPoint : literal.fraction? ≠ none := by simp [point]
    have behind : literal.fraction = fraction := by rw [NumberLiteral.fraction, point]; rfl
    have spelled : literal.spelling =
        Numeral.sign literal.negative ++ literal.whole ++ '.' :: fraction := by
      rw [spelling, point, Option.elim_some]
    rcases exists_cons_or_stops 'f' rest with ⟨more, rfl⟩ | noSuffix
    · have reads := Scan.reads_single literal.negative more literal.isRun digits
      have covered : Numeral.sign literal.negative ++ literal.whole ++ '.' :: (fraction ++ ['f']) =
          literal.spelling ++ ['f'] := by
        rw [spelled, List.append_assoc _ _ ['f'], List.cons_append]
      rw [covered, ← behind] at reads
      rw [reads.first_eq (by rw [parts, List.append_assoc]; rfl)]
      exact .single hasPoint
    · have reads := Scan.reads_double literal.negative literal.isRun digits
        (begins.noDigit.or noSuffix)
      rw [← spelled, ← behind] at reads
      rw [reads.first_eq parts]
      exact .double hasPoint noSuffix

/-! ## Which tokens are numbers -/

/-- The kinds of the tokens that number literals are read as. -/
def Kind.isNumber : Kind → Bool
  | int _ => true
  | single _ => true
  | double _ => true
  | flaw .invalidNumber => true
  | _ => false

/-- An invalid number is a number that carries no value. -/
theorem Kind.eq_invalid_iff {kind : Kind} :
    kind = .flaw .invalidNumber ↔ kind.isNumber = true ∧ kind.literal?.isNone = true := by
  cases kind with
  | flaw flaw => cases flaw <;> simp [isNumber, literal?]
  | _ => simp [isNumber, literal?]

namespace NumberLiteral.ReadAs

variable {literal : NumberLiteral} {rest lexeme : List Char} {kind : Kind}

theorem isNumber (read : literal.ReadAs rest kind lexeme) : kind.isNumber = true := by
  cases read <;> rfl

/-- A literal is flawed if it is an integer out of range, and only then. -/
theorem eq_invalid_iff (read : literal.ReadAs rest kind lexeme) :
    kind = .flaw .invalidNumber ↔ literal.fraction? = none ∧ ¬ literal.InRange := by
  cases read with
  | @int _ i noPoint exact =>
    have inRange : literal.InRange := by
      have lower := i.le_toInt
      have upper := i.toInt_lt
      rw [InRange, ← exact]
      constructor
      · exact_mod_cast lower
      · have below : i.toInt ≤ 2 ^ 63 - 1 := by omega
        exact_mod_cast below
    simp [inRange]
  | invalid noPoint beyond => simp [noPoint, beyond]
  | single point => simp [point]
  | double point noSuffix => simp [point]

end NumberLiteral.ReadAs

namespace Scan

theorem isNumber_string (text : List Char) : (string text).kind.isNumber = false := by
  unfold string
  split <;> rfl

theorem isNumber_symbol? {text : List Char} {found : Scan} (read : symbol? text = some found) :
    found.kind.isNumber = false := by
  unfold symbol? at read
  split at read <;> cases read <;> rfl

theorem isNumber_word (c : Char) (text : List Char) : (word c text).kind.isNumber = false := by
  unfold word Kind.ofWord
  dsimp only
  split <;> rfl

/-- Only the scanner of numbers finds numbers. -/
theorem startsNumber_of_isNumber {c : Char} {text : List Char}
    (number : (first c text).kind.isNumber = true) : StartsNumber (c :: text) := by
  obtain ⟨-, same⟩ | ⟨digit, -⟩ | ⟨rfl, digit, -⟩ | ⟨found, read, same⟩ | ⟨-, same⟩ | same :=
    first_cases c text
  · rw [same, isNumber_string] at number
    cases number
  · exact ⟨false, c, text, digit, rfl⟩
  · cases text with
    | nil => cases digit
    | cons d rest => exact ⟨true, d, rest, digit, rfl⟩
  · rw [same, isNumber_symbol? read] at number
    cases number
  · rw [same, isNumber_word] at number
    cases number
  · rw [same] at number
    cases number

end Scan

/-- Number tokens mean what they spell.  A token of a text is a number, or an invalid one, just
where a digit stands, or a minus directly before one.  There a literal begins that goes on as long
as it can.  Without a point it is read exactly, or as a flaw if it is out of range; with a point it
is read in single or double precision, by what follows it.  An invalid number is an integer out of
range and nothing else, and what is read in a precision is what the digits stand for, rounded to
the nearest. -/
theorem number_tokens_mean_what_they_spell (text : String) :
    let cursor := Cursor.ofText text
    (∀ i < cursor.tokens.length, ∃ front ahead, text.toList = front ++ ahead ∧
      (cursor.token i).position = .behind front ∧
      ((cursor.token i).kind.isNumber = true ↔ StartsNumber ahead) ∧
      (StartsNumber ahead → ∃ literal rest, NumberLiteral.Begins literal ahead rest ∧
        literal.ReadAs rest (cursor.token i).kind (cursor.token i).lexeme.toList) ∧
      ((cursor.token i).kind = .flaw .invalidNumber ↔
        ∃ literal rest, NumberLiteral.Begins literal ahead rest ∧
          literal.fraction? = none ∧ ¬ literal.InRange)) ∧
    ∀ literal : NumberLiteral,
      (∀ x : Single,
        x.IsRounded literal.negative literal.magnitude ↔ x = literal.number .single) ∧
      ∀ x : Double,
        x.IsRounded literal.negative literal.magnitude ↔ x = literal.number .double := by
  intro cursor
  constructor
  · intro i inside
    obtain ⟨front, c, rest, parts, -, made⟩ := Cursor.exists_front inside
    refine ⟨front, c :: rest, parts, ?_⟩
    rw [made]
    dsimp only
    rw [String.toList_ofList]
    refine ⟨rfl, ⟨Scan.startsNumber_of_isNumber, ?_⟩, ?_, ?_⟩
    · intro starts
      obtain ⟨literal, behind, begins⟩ := starts.exists_begins
      exact begins.readAs.isNumber
    · intro starts
      obtain ⟨literal, behind, begins⟩ := starts.exists_begins
      exact ⟨literal, behind, begins, begins.readAs⟩
    · constructor
      · intro invalid
        obtain ⟨number, -⟩ := Kind.eq_invalid_iff.mp invalid
        obtain ⟨literal, behind, begins⟩ := (Scan.startsNumber_of_isNumber number).exists_begins
        exact ⟨literal, behind, begins, begins.readAs.eq_invalid_iff.mp invalid⟩
      · rintro ⟨literal, behind, begins, outOfRange⟩
        exact begins.readAs.eq_invalid_iff.mpr outOfRange
  · intro literal
    exact ⟨literal.isRounded_iff (by decide), literal.isRounded_iff (by decide)⟩

/-- A minus directly behind a word begins a number, zeros in front of it do no harm, and an integer
one below the least of sixty-four bits is invalid. -/
theorem numbers_behind_word_are_read :
    let text := "x-1 -00.5f -9223372036854775809"
    let cursor := Cursor.ofText text
    cursor.tokens.map Token.lexeme = ["x", "-1", "-00.5f", "-9223372036854775809"] ∧
    (∀ i ∈ [1, 2, 3], ∃ front ahead, text.toList = front ++ ahead ∧
      (cursor.token i).position = .behind front ∧ StartsNumber ahead ∧
      ∃ literal rest, NumberLiteral.Begins literal ahead rest ∧
        literal.ReadAs rest (cursor.token i).kind (cursor.token i).lexeme.toList) ∧
    ∃ front ahead, text.toList = front ++ ahead ∧ (cursor.token 3).position = .behind front ∧
      ∃ literal rest, NumberLiteral.Begins literal ahead rest ∧
        literal.fraction? = none ∧ ¬ literal.InRange := by
  intro text cursor
  have lexemes : cursor.tokens.map Token.lexeme =
      ["x", "-1", "-00.5f", "-9223372036854775809"] := by decide +kernel
  have count : cursor.tokens.length = 4 := by
    rw [← List.length_map (f := Token.lexeme), lexemes]
    rfl
  have numbers : ∀ i ∈ [1, 2, 3], (cursor.token i).kind.isNumber = true := by decide +kernel
  have invalid : (cursor.token 3).kind = .flaw .invalidNumber :=
    Kind.eq_invalid_iff.mpr (by decide +kernel)
  obtain ⟨tokens, -⟩ := number_tokens_mean_what_they_spell text
  refine ⟨lexemes, ?_, ?_⟩
  · intro i member
    have inside : i < cursor.tokens.length := by
      rw [count]
      revert i
      decide
    obtain ⟨front, ahead, parts, place, starts, reads, -⟩ := tokens i inside
    have begins := starts.mp (numbers i member)
    exact ⟨front, ahead, parts, place, begins, reads begins⟩
  · obtain ⟨front, ahead, parts, place, -, -, outOfRange⟩ := tokens 3 (by rw [count]; decide)
    exact ⟨front, ahead, parts, place, outOfRange.mp invalid⟩

end ActiveRules
