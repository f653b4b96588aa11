import ActiveRules.Proofs.Acceptance
import ActiveRules.Proofs.WrittenRules

/-!
# Writing a rule and reading it back

A rule that is written out and read again is the same rule, if its names are identifiers, it has
an action, and its numbers are finite.  A written rule has parentheses around every pair, so every
condition in it is an operand, whatever precedence says.

## Main definitions

* `Rule.Printable`: what a rule needs for its text to stand for it.

## Main statements

* `Rule.derives_writtenKinds`: the tokens that a rule is written as are derived as that rule.
* `Rule.parse_text_of_printable`: a printable rule is read back from its text.
-/

namespace ActiveRules

/-! ## What is written is derived -/

/-- A finite value is written as one literal. -/
theorem Value.exists_literal {value : Value} (finite : value.isFinite = true) :
    ∃ kind, value.writtenKinds = [kind] ∧ kind.IsLiteral value := by
  cases value with
  | bool b => exact ⟨.bool b, rfl, .bool b⟩
  | int i => exact ⟨.int i, rfl, .int i⟩
  | single x => exact ⟨.single x, if_pos finite, .single x⟩
  | double x => exact ⟨.double x, if_pos finite, .double x⟩
  | string content => exact ⟨.string content, rfl, .string content⟩

/-- A condition is written as an operand: the parentheses around every pair make it one. -/
theorem Condition.derives_writtenKinds {condition : Condition}
    (finite : ∀ value ∈ condition.values, value.isFinite = true) :
    Derives .unary condition.writtenKinds condition := by
  induction condition with
  | compare property comparison value =>
    obtain ⟨kind, written, literal⟩ := Value.exists_literal (finite value List.mem_cons_self)
    rw [writtenKinds, written]
    exact .compare literal
  | and left right ihLeft ihRight =>
    have first := ihLeft fun value member => finite value (List.mem_append_left _ member)
    have second := ihRight fun value member => finite value (List.mem_append_right _ member)
    exact .parentheses (.conjunction (.and (.unary first) second))
  | or left right ihLeft ihRight =>
    have first := ihLeft fun value member => finite value (List.mem_append_left _ member)
    have second := ihRight fun value member => finite value (List.mem_append_right _ member)
    exact .parentheses (.or (.conjunction (.unary first)) (.unary second))
  | not inner ih => exact .not (.parentheses (.conjunction (.unary (ih finite))))

namespace Action

/-- Arguments are written with commas between them. -/
theorem argumentsDerive_argumentKinds {values : List Value} (nonempty : values ≠ [])
    (finite : ∀ value ∈ values, value.isFinite = true) :
    ArgumentsDerive (argumentKinds values) values := by
  fun_induction argumentKinds values with
  | case1 => exact absurd rfl nonempty
  | case2 value =>
    obtain ⟨kind, written, literal⟩ := Value.exists_literal (finite value List.mem_cons_self)
    rw [written]
    exact .one (.literal literal)
  | case3 value next rest ih =>
    obtain ⟨kind, written, literal⟩ := Value.exists_literal (finite value List.mem_cons_self)
    rw [written]
    exact .more (.literal literal)
      (ih (by simp) fun other member => finite other (List.mem_cons_of_mem value member))

theorem derives_writtenKinds {action : Action}
    (finite : ∀ value ∈ action.arguments, value.isFinite = true) :
    Derives action.writtenKinds action := by
  obtain ⟨name, arguments⟩ := action
  cases arguments with
  | nil => exact .bare name
  | cons value rest => exact .applied name (argumentsDerive_argumentKinds (by simp) finite)

/-- Actions are written one after another, behind others that have been. -/
theorem SequenceDerives.writtenKinds {front : List Kind} {done actions : List Action}
    (earlier : SequenceDerives front done)
    (finite : ∀ value ∈ actions.flatMap arguments, value.isFinite = true) :
    SequenceDerives (front ++ actions.flatMap Action.writtenKinds) (done ++ actions) := by
  induction actions generalizing front done with
  | nil => simpa using earlier
  | cons action others ih =>
    rw [List.flatMap_cons] at finite ⊢
    have here := derives_writtenKinds fun value member =>
      finite value (List.mem_append_left _ member)
    rw [← List.append_assoc, List.append_cons]
    exact ih (.snoc earlier here) fun value member =>
      finite value (List.mem_append_right _ member)

end Action

theorem Header.derives_writtenKinds {header : Header}
    (finite : ∀ value ∈ header.values, value.isFinite = true) :
    Derives header.writtenKinds header := by
  obtain ⟨trigger, condition⟩ := header
  cases condition with
  | none => exact .plain trigger
  | some condition =>
    exact .guarded trigger (.conjunction (.unary (Condition.derives_writtenKinds finite)))

namespace Rule

/-- A rule with an action and finite numbers is derived from what it is written as. -/
theorem derives_writtenKinds {rule : Rule} (nonempty : rule.actions ≠ [])
    (finite : ∀ value ∈ rule.values, value.isFinite = true) :
    Derives rule.writtenKinds rule := by
  have head := Header.derives_writtenKinds fun value member =>
    finite value (List.mem_append_left _ member)
  have tail := Action.SequenceDerives.nil.writtenKinds fun value member =>
    finite value (List.mem_append_right _ member)
  exact .intro head tail nonempty

/-- What a rule needs for its text to stand for it. -/
structure Printable (rule : Rule) : Prop where
  /-- Every name can be written as one word. -/
  names : ∀ name ∈ rule.names, IsIdentifier name
  /-- There is an action. -/
  actions_ne_nil : rule.actions ≠ []
  /-- Every number can be written as a numeral. -/
  finite : ∀ value ∈ rule.values, value.isFinite = true

instance (rule : Rule) : Decidable rule.Printable :=
  decidable_of_iff
    ((∀ name ∈ rule.names, IsIdentifier name) ∧ rule.actions.isEmpty = false ∧
      ∀ value ∈ rule.values, value.isFinite = true)
    ⟨fun ⟨names, acts, finite⟩ => ⟨names, by simpa using acts, finite⟩,
      fun ⟨names, acts, finite⟩ => ⟨names, by simpa using acts, finite⟩⟩

/-- What the text of a rule is read as depends on the tokens that the rule is written as. -/
theorem parse_text_eq_ok_iff {rule other : Rule} (names : ∀ name ∈ rule.names, IsIdentifier name) :
    Rule.parse rule.text = .ok other ↔ Derives rule.writtenKinds other := by
  rw [parse_eq_ok_iff, text, String.toList_ofList, kindsAhead_rule names]

/-- A printable rule is read back from its text. -/
theorem parse_text_of_printable {rule : Rule} (printable : rule.Printable) :
    Rule.parse rule.text = .ok rule :=
  (parse_text_eq_ok_iff printable.names).mpr
    (derives_writtenKinds printable.actions_ne_nil printable.finite)

/-- The least integer, a negative zero, the least positive number, nested negations, and quotes,
line ends, a comment sign and a null character within strings. -/
theorem parse_text_of_intricate_rule :
    let condition : Condition :=
      .not (.or (.and (.compare "app.id" .contains (.string "a\"b\\\n\t\r# \x00"))
          (.not (.not (.compare "_x" .less (.single (.ordered false 1))))))
        (.or (.compare "N.1" .atLeast (.int Int64.minValue))
          (.compare "alpha" .unequal (.double (.ordered true 0)))))
    let arguments : List Value :=
      [.string "", .bool true, .string "é\"\\", .double (.ordered false 1)]
    let rule : Rule :=
      ⟨⟨"created", some condition⟩, [⟨"set", arguments⟩, ⟨"maximize", []⟩]⟩
    rule.Printable ∧ Rule.parse rule.text = .ok rule := by
  intro condition arguments rule
  have printable : rule.Printable := by decide
  exact ⟨printable, parse_text_of_printable printable⟩

end Rule

end ActiveRules
