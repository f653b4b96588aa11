import ActiveRules.Proofs.RoundTrip

/-!
# Reading, writing and reading again

A rule that was read from a text has identifiers for its names, and an action.  So it is read back
from its own text as soon as its numbers are finite.  They need not be: a literal beyond the range
of its format is read as an infinity, and the name that an infinity is written with is an
identifier.

## Main definitions

* `Value.isFractional`, `Kind.isFractional`: numbers with a fraction, as values and as tokens.
* `Kind.carries`: tokens with a value of a sort.

## Main statements

* `Rule.Derives.countP_carries`: the values of a rule of any sort without strings are counted among
  its tokens.
* `Rule.Derives.countP_isFractional`: reading keeps the number of numbers with a fraction.
* `Rule.countP_writtenKinds`: writing keeps those that are finite, and no others.
* `parse_text_iff_finite`: a rule that was read from a text is read back from its own text exactly
  if its numbers are finite.

## Design notes

A rule with an infinity is told from whatever its text is read as by counting alone, so nothing
has to be known about where in the text an infinity stands.
-/

namespace ActiveRules

/-! ## Counting the numbers with a fraction -/

/-- A value that is a number of one of the two formats with a fraction. -/
def Value.isFractional : Value → Bool
  | .single _ => true
  | .double _ => true
  | _ => false

/-- A token that is a number of one of the two formats with a fraction. -/
def Kind.isFractional : Kind → Bool
  | .single _ => true
  | .double _ => true
  | _ => false

/-- Does a token carry a value of this sort? -/
def Kind.carries (sort : Value → Bool) (kind : Kind) : Bool := kind.literal?.any sort

theorem Kind.carries_isFractional : carries Value.isFractional = isFractional := by
  funext kind
  cases kind <;> rfl

/-- The token of a literal carries its value. -/
theorem Kind.IsLiteral.carries {kind : Kind} {value : Value} (literal : kind.IsLiteral value)
    (sort : Value → Bool) : kind.carries sort = sort value := by
  cases literal <;> rfl

theorem Kind.IsLiteral.isFractional {kind : Kind} {value : Value} (literal : kind.IsLiteral value) :
    kind.isFractional = value.isFractional := by
  rw [← Kind.carries_isFractional, literal.carries]

section Reading

variable {kinds : List Kind} {sort : Value → Bool}

/-- The values of a condition are those that its tokens carry. -/
theorem Condition.Derives.countP_carries {stratum : Stratum} {condition : Condition}
    (derivation : Condition.Derives stratum kinds condition) :
    kinds.countP (Kind.carries sort) = condition.values.countP sort := by
  induction derivation with
  | conjunction _ ih => exact ih
  | or _ _ ihOperands ihOperand =>
    simp [values, List.countP_append, Kind.carries, Kind.literal?, ihOperands, ihOperand]
  | unary _ ih => exact ih
  | and _ _ ihOperands ihOperand =>
    simp [values, List.countP_append, Kind.carries, Kind.literal?, ihOperands, ihOperand]
  | not _ ih => simp [values, Kind.carries, Kind.literal?, ih]
  | parentheses _ ih => simp [List.countP_append, Kind.carries, Kind.literal?, ih]
  | compare literal =>
    simp only [values, List.countP_cons, literal.carries]
    rfl

/-- A header has the values that its tokens carry. -/
theorem Header.Derives.countP_carries {header : Header}
    (derivation : Header.Derives kinds header) :
    kinds.countP (Kind.carries sort) = header.values.countP sort := by
  cases derivation with
  | plain trigger => rfl
  | guarded trigger guard =>
    simp [Header.values, Kind.carries, Kind.literal?, guard.countP_carries]

section Actions

variable (noString : ∀ content, sort (.string content) = false)
include noString

/-- A bare identifier among the arguments stands for a string, which the sort leaves out. -/
theorem Kind.IsArgument.carries {kind : Kind} {value : Value}
    (argument : kind.IsArgument value) : kind.carries sort = sort value := by
  cases argument with
  | literal literal => exact literal.carries sort
  | identifier name => exact (noString name).symm

theorem Action.ArgumentsDerive.countP_carries {values : List Value}
    (derivation : Action.ArgumentsDerive kinds values) :
    kinds.countP (Kind.carries sort) = values.countP sort := by
  induction derivation with
  | one argument => simp [List.countP_cons, argument.carries noString]
  | more argument _ ih =>
    simp only [List.countP_cons, argument.carries noString, ih]
    rfl

/-- An action has the values that its tokens carry. -/
theorem Action.Derives.countP_carries {action : Action}
    (derivation : Action.Derives kinds action) :
    kinds.countP (Kind.carries sort) = action.arguments.countP sort := by
  cases derivation with
  | bare name => rfl
  | applied name inside =>
    simp [List.countP_append, Kind.carries, Kind.literal?, inside.countP_carries noString]

theorem Action.SequenceDerives.countP_carries {actions : List Action}
    (derivation : Action.SequenceDerives kinds actions) :
    kinds.countP (Kind.carries sort) = (actions.flatMap Action.arguments).countP sort := by
  induction derivation with
  | nil => rfl
  | snoc _ last ih =>
    simp [List.countP_append, ih, last.countP_carries noString]

/-- The values of a rule that are no strings are those that its tokens carry. -/
theorem Rule.Derives.countP_carries {rule : Rule} (derivation : Rule.Derives kinds rule) :
    kinds.countP (Kind.carries sort) = rule.values.countP sort := by
  obtain ⟨head, tail, -⟩ := derivation
  rw [List.countP_append, head.countP_carries, tail.countP_carries noString, Rule.values,
    List.countP_append]

end Actions

/-- Reading keeps the number of numbers with a fraction. -/
theorem Rule.Derives.countP_isFractional {rule : Rule} (derivation : Rule.Derives kinds rule) :
    kinds.countP Kind.isFractional = rule.values.countP Value.isFractional := by
  rw [← Kind.carries_isFractional]
  exact derivation.countP_carries fun _ => rfl

end Reading

section Writing

/-- Values that are written with a fraction: numbers of the two formats, unless infinite. -/
def Value.isWrittenFractional (value : Value) : Bool := value.isFractional && value.isFinite

theorem Binary.countP_nameKinds {F : Format} (x : Binary F) (suffix : List Char) :
    (x.nameKinds suffix).countP Kind.isFractional = 0 := by
  match x with
  | .nan => rfl
  | .ordered true _ => rfl
  | .ordered false _ => rfl

/-- Writing makes a token with a fraction of a finite number with a fraction, and of no other
value. -/
theorem Value.countP_writtenKinds (value : Value) :
    value.writtenKinds.countP Kind.isFractional = [value].countP isWrittenFractional := by
  by_cases finite : value.isFinite = true
  · obtain ⟨kind, written, literal⟩ := exists_literal finite
    rw [written, List.countP_singleton, List.countP_singleton, literal.isFractional,
      isWrittenFractional, finite, Bool.and_true]
  · have unwritten : [value].countP isWrittenFractional = 0 := by
      rw [List.countP_singleton, isWrittenFractional, Bool.eq_false_iff.mpr finite, Bool.and_false]
      rfl
    rw [unwritten]
    cases value with
    | single x =>
      have infinite : ¬ x.isFinite = true := finite
      rw [writtenKinds, if_neg infinite, Binary.countP_nameKinds]
    | double x =>
      have infinite : ¬ x.isFinite = true := finite
      rw [writtenKinds, if_neg infinite, Binary.countP_nameKinds]
    | _ => exact absurd rfl finite

/-- A condition is written with as many fractional tokens as it has finite fractional values. -/
theorem Condition.countP_writtenKinds (condition : Condition) :
    condition.writtenKinds.countP Kind.isFractional =
      condition.values.countP Value.isWrittenFractional := by
  induction condition with
  | compare property comparison value => exact value.countP_writtenKinds
  | and left right ihLeft ihRight =>
    simp [writtenKinds, values, List.countP_append, Kind.isFractional, ihLeft, ihRight]
  | or left right ihLeft ihRight =>
    simp [writtenKinds, values, List.countP_append, Kind.isFractional, ihLeft, ihRight]
  | not inner ih => simp [writtenKinds, values, List.countP_append, Kind.isFractional, ih]

theorem Action.countP_argumentKinds (values : List Value) :
    (argumentKinds values).countP Kind.isFractional =
      values.countP Value.isWrittenFractional := by
  fun_induction argumentKinds values with
  | case1 => rfl
  | case2 value => exact value.countP_writtenKinds
  | case3 value next rest ih =>
    have comma : (Kind.comma :: argumentKinds (next :: rest)).countP Kind.isFractional =
        (argumentKinds (next :: rest)).countP Kind.isFractional :=
      List.countP_cons_of_neg (by decide)
    rw [List.countP_append, value.countP_writtenKinds, comma, ih, ← List.countP_append,
      List.singleton_append]

theorem Action.countP_writtenKinds (action : Action) :
    action.writtenKinds.countP Kind.isFractional =
      action.arguments.countP Value.isWrittenFractional := by
  simp [writtenKinds, List.countP_append, Kind.isFractional, countP_argumentKinds]

theorem Header.countP_writtenKinds (header : Header) :
    header.writtenKinds.countP Kind.isFractional =
      header.values.countP Value.isWrittenFractional := by
  obtain ⟨trigger, condition⟩ := header
  cases condition with
  | none => rfl
  | some condition => exact condition.countP_writtenKinds

/-- A rule is written with as many fractional tokens as it has finite fractional values. -/
theorem Rule.countP_writtenKinds (rule : Rule) :
    rule.writtenKinds.countP Kind.isFractional =
      rule.values.countP Value.isWrittenFractional := by
  have actions : (rule.actions.flatMap Action.writtenKinds).countP Kind.isFractional =
      (rule.actions.flatMap Action.arguments).countP Value.isWrittenFractional := by
    simp only [List.countP_flatMap, Function.comp_def, Action.countP_writtenKinds]
  rw [writtenKinds, values, List.countP_append, List.countP_append, actions,
    Header.countP_writtenKinds]

/-- If every number with a fraction is written with one, every value is finite. -/
theorem Value.isFinite_of_countP {values : List Value}
    (same : values.countP isWrittenFractional = values.countP isFractional) :
    ∀ value ∈ values, value.isFinite = true := by
  induction values with
  | nil => simp
  | cons first rest ih =>
    have fewer : rest.countP isWrittenFractional ≤ rest.countP isFractional :=
      List.countP_mono_left fun value _ written => (Bool.and_eq_true_iff.mp written).1
    -- An infinity is counted on one side only, and no other value could make up for it.
    have both : first.isFinite = true ∧
        rest.countP isWrittenFractional = rest.countP isFractional := by
      rw [List.countP_cons, List.countP_cons, isWrittenFractional] at same
      cases fractional : first.isFractional with
      | false =>
        refine ⟨?_, by simpa [fractional] using same⟩
        cases first with
        | single => cases fractional
        | double => cases fractional
        | _ => rfl
      | true =>
        cases finite : first.isFinite with
        | true => exact ⟨rfl, by simpa [fractional, finite] using same⟩
        | false =>
          rw [fractional, finite, Bool.and_false, if_pos rfl] at same
          simp only [Bool.false_eq_true, if_false] at same
          omega
    intro value member
    rcases List.mem_cons.mp member with rfl | later
    · exact both.1
    · exact ih both.2 value later

end Writing

section Equality

/-- Equal values are of one kind. -/
theorem Value.isFractional_of_beq {value other : Value} (equal : (value == other) = true) :
    value.isFractional = other.isFractional := by
  cases value with
  | bool =>
    cases other with
    | bool => rfl
    | _ => cases equal
  | int =>
    cases other with
    | int => rfl
    | _ => cases equal
  | single =>
    cases other with
    | single => rfl
    | _ => cases equal
  | double =>
    cases other with
    | double => rfl
    | _ => cases equal
  | string =>
    cases other with
    | string => rfl
    | _ => cases equal

theorem Value.countP_of_beq {values others : List Value} (equal : (values == others) = true) :
    values.countP isFractional = others.countP isFractional := by
  induction values generalizing others with
  | nil =>
    cases others with
    | nil => rfl
    | cons => cases equal
  | cons value rest ih =>
    cases others with
    | nil => cases equal
    | cons other otherRest =>
      rw [List.cons_beq_cons, Bool.and_eq_true] at equal
      rw [List.countP_cons, List.countP_cons, isFractional_of_beq equal.1, ih equal.2]

theorem Condition.countP_of_beq {condition other : Condition}
    (equal : (condition == other) = true) :
    condition.values.countP Value.isFractional = other.values.countP Value.isFractional := by
  induction condition generalizing other with
  | compare property comparison value =>
    cases other with
    | compare otherProperty otherComparison otherValue =>
      have parts : (property == otherProperty &&
        (comparison == otherComparison && value == otherValue)) = true := equal
      rw [Bool.and_eq_true, Bool.and_eq_true] at parts
      rw [values, values, List.countP_singleton, List.countP_singleton,
        Value.isFractional_of_beq parts.2.2]
    | _ => cases equal
  | and left right ihLeft ihRight =>
    cases other with
    | and otherLeft otherRight =>
      have parts : (left == otherLeft && right == otherRight) = true := equal
      rw [Bool.and_eq_true] at parts
      rw [values, values, List.countP_append, List.countP_append, ihLeft parts.1, ihRight parts.2]
    | _ => cases equal
  | or left right ihLeft ihRight =>
    cases other with
    | or otherLeft otherRight =>
      have parts : (left == otherLeft && right == otherRight) = true := equal
      rw [Bool.and_eq_true] at parts
      rw [values, values, List.countP_append, List.countP_append, ihLeft parts.1, ihRight parts.2]
    | _ => cases equal
  | not inner ih =>
    cases other with
    | not otherInner =>
      have inside : (inner == otherInner) = true := equal
      have counted := ih inside
      exact counted
    | _ => cases equal

/-- Headers that are equal have as many fractional values as each other. -/
theorem Header.countP_of_beq {header other : Header} (equal : (header == other) = true) :
    header.values.countP Value.isFractional = other.values.countP Value.isFractional := by
  obtain ⟨trigger, condition⟩ := header
  obtain ⟨otherTrigger, otherCondition⟩ := other
  have parts : (trigger == otherTrigger && condition == otherCondition) = true := equal
  rw [Bool.and_eq_true] at parts
  cases condition with
  | none =>
    cases otherCondition with
    | none => rfl
    | some => cases parts.2
  | some condition =>
    cases otherCondition with
    | none => cases parts.2
    | some otherCondition => exact Condition.countP_of_beq parts.2

theorem Action.countP_of_beq {actions others : List Action} (equal : (actions == others) = true) :
    (actions.flatMap arguments).countP Value.isFractional =
      (others.flatMap arguments).countP Value.isFractional := by
  induction actions generalizing others with
  | nil =>
    cases others with
    | nil => rfl
    | cons => cases equal
  | cons action rest ih =>
    cases others with
    | nil => cases equal
    | cons other otherRest =>
      rw [List.cons_beq_cons, Bool.and_eq_true] at equal
      have parts : (action.name == other.name && action.arguments == other.arguments) = true :=
        equal.1
      rw [Bool.and_eq_true] at parts
      rw [List.flatMap_cons, List.flatMap_cons, List.countP_append, List.countP_append,
        Value.countP_of_beq parts.2, ih equal.2]

/-- Equal rules have the same number of numbers with a fraction. -/
theorem Rule.countP_of_beq {rule other : Rule} (equal : (rule == other) = true) :
    rule.values.countP Value.isFractional = other.values.countP Value.isFractional := by
  have parts : (rule.toHeader == other.toHeader && rule.actions == other.actions) = true := equal
  rw [Bool.and_eq_true] at parts
  rw [values, values, List.countP_append, List.countP_append, Header.countP_of_beq parts.1,
    Action.countP_of_beq parts.2]

end Equality

/-! ## Rules that were read from a text -/

section Names

variable {kinds : List Kind}

/-- Every name of what is read is an identifier among the tokens. -/
theorem Condition.Derives.identifier_mem {stratum : Stratum} {condition : Condition}
    (derivation : Condition.Derives stratum kinds condition) :
    ∀ name ∈ condition.properties, .identifier name ∈ kinds := by
  have join {kind connective : Kind} {chain more : List Kind}
      (member : kind ∈ chain ∨ kind ∈ more) : kind ∈ chain ++ connective :: more := by
    rcases member with left | right
    · exact List.mem_append_left _ left
    · exact List.mem_append_right _ (List.mem_cons_of_mem _ right)
  induction derivation with
  | conjunction _ ih => exact ih
  | or _ _ ihOperands ihOperand =>
    intro name member
    exact join ((List.mem_append.mp member).imp (ihOperands name) (ihOperand name))
  | unary _ ih => exact ih
  | and _ _ ihOperands ihOperand =>
    intro name member
    exact join ((List.mem_append.mp member).imp (ihOperands name) (ihOperand name))
  | not _ ih =>
    intro name member
    exact List.mem_cons_of_mem _ (ih name member)
  | parentheses _ ih =>
    intro name member
    exact List.mem_append_left _ (List.mem_cons_of_mem _ (ih name member))
  | compare literal =>
    intro name member
    rw [List.mem_singleton.mp member]
    exact List.mem_cons_self

theorem Action.Derives.identifier_mem {action : Action}
    (derivation : Action.Derives kinds action) : .identifier action.name ∈ kinds := by
  cases derivation with
  | bare name => exact List.mem_cons_self
  | applied name inside => exact List.mem_cons_self

theorem Action.SequenceDerives.identifier_mem {actions : List Action}
    (derivation : Action.SequenceDerives kinds actions) :
    ∀ name ∈ actions.map Action.name, .identifier name ∈ kinds := by
  induction derivation with
  | nil => rintro name ⟨⟩
  | snoc _ last ih =>
    intro name member
    rw [List.map_append] at member
    rcases List.mem_append.mp member with earlier | here
    · exact List.mem_append_left _ (ih name earlier)
    · rw [List.mem_singleton.mp here]
      exact List.mem_append_right _ last.identifier_mem

theorem Header.Derives.identifier_mem {header : Header} (derivation : Header.Derives kinds header) :
    ∀ name ∈ header.names, .identifier name ∈ kinds := by
  cases derivation with
  | plain trigger =>
    intro name member
    rw [List.mem_singleton.mp member]
    exact List.mem_cons_of_mem _ List.mem_cons_self
  | guarded trigger guard =>
    intro name member
    rcases List.mem_cons.mp member with rfl | inside
    · exact List.mem_cons_of_mem _ List.mem_cons_self
    · exact List.mem_cons_of_mem _ (List.mem_cons_of_mem _ (List.mem_cons_of_mem _
        (guard.identifier_mem name inside)))

/-- Every name of a rule is an identifier among its tokens. -/
theorem Rule.Derives.identifier_mem {rule : Rule} (derivation : Rule.Derives kinds rule) :
    ∀ name ∈ rule.names, .identifier name ∈ kinds := by
  obtain ⟨head, tail, -⟩ := derivation
  intro name member
  rcases List.mem_append.mp member with first | later
  · exact List.mem_append_left _ (head.identifier_mem name first)
  · exact List.mem_append_right _ (tail.identifier_mem name later)

theorem Rule.Derives.actions_ne_nil {rule : Rule} (derivation : Rule.Derives kinds rule) :
    rule.actions ≠ [] := by
  obtain ⟨_, _, nonempty⟩ := derivation
  exact nonempty

end Names

/-- A result that passes a test is a result. -/
theorem exists_of_toOption_any {E A : Type} {outcome : Except E A} {test : A → Bool}
    (passed : outcome.toOption.any test = true) : ∃ result, outcome = .ok result ∧ test result := by
  cases outcome with
  | error => cases passed
  | ok result => exact ⟨result, rfl, passed⟩

namespace Rule

/-- A rule that was read from a text has identifiers for its names, and an action. -/
theorem of_parse_eq_ok {text : String} {rule : Rule} (read : Rule.parse text = .ok rule) :
    (∀ name ∈ rule.names, IsIdentifier name) ∧ rule.actions ≠ [] := by
  have derivation := parse_eq_ok_iff.mp read
  refine ⟨?_, ?_⟩
  · intro name member
    exact isIdentifier_of_mem_kindsAhead text.toList (derivation.identifier_mem name member)
  · exact derivation.actions_ne_nil

/-- A rule whose text is read as a rule with as many numbers with a fraction has finite values. -/
theorem isFinite_of_reread {rule other : Rule} (names : ∀ name ∈ rule.names, IsIdentifier name)
    (reread : Rule.parse rule.text = .ok other)
    (same : other.values.countP Value.isFractional = rule.values.countP Value.isFractional) :
    ∀ value ∈ rule.values, value.isFinite = true := by
  have derivation := (parse_text_eq_ok_iff names).mp reread
  refine Value.isFinite_of_countP ?_
  rw [← countP_writtenKinds, derivation.countP_isFractional, same]

end Rule

/-- A rule that was read from a text is read back from its own text exactly if its numbers are
finite.  If one of them is not, whatever the text is read as does not even compare equal. -/
theorem parse_text_iff_finite {text : String} {rule : Rule} (read : Rule.parse text = .ok rule) :
    (Rule.parse rule.text = .ok rule ↔ ∀ value ∈ rule.values, value.isFinite = true) ∧
      ((∃ value ∈ rule.values, value.isFinite = false) →
        ∀ other, Rule.parse rule.text = .ok other → (other == rule) = false) := by
  obtain ⟨names, nonempty⟩ := Rule.of_parse_eq_ok read
  refine ⟨⟨?_, ?_⟩, ?_⟩
  · intro reread
    exact Rule.isFinite_of_reread names reread rfl
  · intro finite
    exact (Rule.parse_text_eq_ok_iff names).mpr (Rule.derives_writtenKinds nonempty finite)
  · rintro ⟨value, member, infinite⟩ other reread
    rw [Bool.eq_false_iff]
    intro equal
    have finite := Rule.isFinite_of_reread names reread (Rule.countP_of_beq equal) value member
    rw [infinite] at finite
    cases finite

/-- An infinite argument is written as a word, and read back as the string of that word. -/
theorem infinite_argument_is_reread_as_string :
    let text := "on created snap(1000000000000000000000000000000000000000.0f)"
    ∃ rule other, Rule.parse text = .ok rule ∧ (∃ value ∈ rule.values, value.isFinite = false) ∧
      Rule.parse rule.text = .ok other ∧ (other.values == [.string "inff"]) = true ∧
      (other == rule) = false ∧ Rule.parse rule.text ≠ .ok rule := by
  intro text
  have run : (Rule.parse text).toOption.any (fun rule =>
      rule.values.any (fun value => !value.isFinite) &&
        (Rule.parse rule.text).toOption.any fun other => other.values == [.string "inff"]) =
      true := by decide +kernel
  obtain ⟨rule, read, holds⟩ := exists_of_toOption_any run
  rw [Bool.and_eq_true, List.any_eq_true] at holds
  obtain ⟨⟨value, member, infinite⟩, again⟩ := holds
  obtain ⟨other, reread, values⟩ := exists_of_toOption_any again
  have beyond : ∃ value ∈ rule.values, value.isFinite = false :=
    ⟨value, member, by simpa using infinite⟩
  obtain ⟨back, differs⟩ := parse_text_iff_finite read
  refine ⟨rule, other, read, beyond, reread, values, differs beyond other reread, ?_⟩
  intro same
  obtain ⟨value, member, infinite⟩ := beyond
  rw [back.mp same value member] at infinite
  cases infinite

/-- A literal beyond the range of single precision is read as an infinity, and the text of the rule
is then no rule. -/
theorem overflowing_literal_is_not_reread :
    let text := "on created if alpha < 1000000000000000000000000000000000000000.0f maximize()"
    ∃ rule, Rule.parse text = .ok rule ∧ rule.text = "on created if alpha < inff maximize()" ∧
      (Rule.parse rule.text).isOk = false := by
  intro text
  have run : (Rule.parse text).toOption.any (fun rule =>
      rule.text == "on created if alpha < inff maximize()" && !(Rule.parse rule.text).isOk) =
      true := by decide +kernel
  obtain ⟨rule, read, holds⟩ := exists_of_toOption_any run
  rw [Bool.and_eq_true] at holds
  exact ⟨rule, read, by simpa using holds.1, by simpa using holds.2⟩

end ActiveRules
