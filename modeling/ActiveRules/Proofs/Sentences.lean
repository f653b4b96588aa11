import ActiveRules.Proofs.Grammar
import ActiveRules.Proofs.Readers
import ActiveRules.Reading.Rule

/-!
# Readers take the sentences of the grammar

A sentence takes the reader from any place where it can stand to the reading in which its condition,
header, action or rule is complete.  The place is arbitrary, because a sentence may stand inside
any number of parentheses, behind operands that wait for it, and in front of anything.

## Main definitions

* `ConditionReading.Takes`: what the reader makes of a sentence of each stratum.

## Main statements

* `ConditionReading.takes_of_derives`: the reader takes every sentence of each stratum.
* `HeaderReading.run_of_derives`, `RuleReading.run_of_derives`: the same for headers and rules.
-/

namespace ActiveRules

namespace Pending

/-- The innermost of the waiting negations is the first to be applied. -/
theorem negate_not (condition : Condition) (n : Nat) :
    negate (.not condition) n = negate condition (n + 1) := by
  induction n with
  | zero => rfl
  | succ n ih => exact congrArg Condition.not ih

end Pending

namespace ConditionReading

theorem complete_not (outer : List Pending) (pending : Pending) (operand : Condition) :
    complete outer { pending with negations := pending.negations + 1 } operand =
      complete outer pending (.not operand) := by
  simp only [complete, Pending.conjoin, Pending.negate_not]

/-- What the reader makes of a sentence of each stratum, in every place where one can stand: an
operand is completed, a conjunction is joined up to here, and a disjunction ends its level. -/
def Takes : Stratum → List Kind → Condition → Prop
  | .unary, kinds, condition => ∀ outer pending,
    follow? next? (.operand outer pending) kinds = some (complete outer pending condition)
  | .conjunction, kinds, condition => ∀ outer disjunction,
    follow? next? (.operand outer ⟨disjunction, none, 0⟩) kinds =
      some (.joined outer disjunction condition)
  | .disjunction, kinds, condition => ∀ outer, ∃ disjunction conjunction,
    follow? next? (.operand outer .empty) kinds = some (.joined outer disjunction conjunction) ∧
      Pending.disjoin disjunction conjunction = condition

/-- The reader takes every sentence of the grammar of conditions. -/
theorem takes_of_derives {stratum : Stratum} {kinds : List Kind} {condition : Condition}
    (derivation : Condition.Derives stratum kinds condition) : Takes stratum kinds condition := by
  induction derivation with
  | conjunction _ ih =>
    intro outer
    exact ⟨none, _, ih outer none, rfl⟩
  | or _ _ ihOperands ihOperand =>
    intro outer
    obtain ⟨disjunction, conjunction, run, rfl⟩ := ihOperands outer
    refine ⟨some (Pending.disjoin disjunction conjunction), _, ?_, rfl⟩
    rw [follow?_append_of_run run, follow?_cons_of_next rfl]
    exact ihOperand outer _
  | unary _ ih =>
    intro outer disjunction
    exact ih outer ⟨disjunction, none, 0⟩
  | @and _ _ left _ _ _ ihOperands ihOperand =>
    intro outer disjunction
    rw [follow?_append_of_run (ihOperands outer disjunction), follow?_cons_of_next rfl]
    exact ihOperand outer ⟨disjunction, some left, 0⟩
  | not _ ih =>
    intro outer pending
    rw [follow?_cons_of_next rfl, ih, complete_not]
  | parentheses _ ih =>
    -- What waits goes onto the stack, and the closing parenthesis brings it back.
    intro outer pending
    obtain ⟨disjunction, conjunction, run, rfl⟩ := ih (pending :: outer)
    rw [List.cons_append, follow?_cons_of_next rfl, follow?_append_of_run run,
      follow?_cons_of_next rfl, follow?_nil]
  | @compare property comparison kind value literal =>
    intro outer pending
    have found : next? (.literal outer pending property comparison) kind =
        some (complete outer pending (.compare property comparison value)) := by
      rw [next?, Kind.isLiteral_iff.mp literal, Option.map_some]
    rw [follow?_cons_of_next rfl, follow?_cons_of_next rfl, follow?_cons_of_next found,
      follow?_nil]

end ConditionReading

namespace HeaderReading

/-- Behind its keyword a condition is read as by itself. -/
theorem next?_guarded (trigger : String) {reading later : ConditionReading} {kind : Kind}
    (step : reading.next? kind = some later) :
    next? (.guarded trigger reading) kind = some (.guarded trigger later) := by
  show (reading.next? kind).map (HeaderReading.guarded trigger) = _
  rw [step, Option.map_some]

/-- The reader of headers takes every header. -/
theorem run_of_derives {kinds : List Kind} {header : Header}
    (derivation : Header.Derives kinds header) :
    ∃ reading, follow? next? .start kinds = some reading ∧ reading.header? = some header := by
  cases derivation with
  | plain trigger => exact ⟨.named trigger, rfl, rfl⟩
  | @guarded trigger kinds condition guard =>
    obtain ⟨disjunction, conjunction, run, rfl⟩ := ConditionReading.takes_of_derives guard []
    refine ⟨.guarded trigger (.joined [] disjunction conjunction), ?_, rfl⟩
    rw [follow?_cons_of_next rfl, follow?_cons_of_next rfl, follow?_cons_of_next rfl]
    exact follow?_lift (HeaderReading.guarded trigger) (next?_guarded trigger) run

/-- A header that may end is not extended by an identifier: its action begins there. -/
theorem header?_of_next?_identifier {reading later : HeaderReading} {name : String}
    (step : reading.next? (.identifier name) = some later) : reading.header? = none := by
  cases reading with
  | start => rfl
  | trigger => rfl
  | named => cases step
  | guarded trigger inner =>
    cases inner with
    | joined => cases step
    | _ => rfl

end HeaderReading

namespace RuleReading

/-- The reader of rules reads a header as the reader of headers does. -/
theorem next?_header {reading later : HeaderReading} {kind : Kind}
    (step : reading.next? kind = some later) :
    next? (.header reading) kind = some (.header later) := by
  cases kind with
  | identifier name =>
    rw [next?, HeaderReading.header?_of_next?_identifier step]
    simp only [step, Option.map_some]
  | _ => rw [next?, step, Option.map_some]; simp

/-- Unless the parenthesis is closed at once, what follows it is read as what follows a comma. -/
theorem next?_firstArgument (head : Header) (done : List Action) (name : String) {kind : Kind}
    (inside : kind ≠ .rightParenthesis) :
    next? (.firstArgument head done name) kind = next? (.argument head done name []) kind := by
  cases kind with
  | rightParenthesis => exact absurd rfl inside
  | _ => rfl

/-- With its first argument a rule goes on as behind a comma, with nothing earlier. -/
theorem follow?_firstArgument (head : Header) (done : List Action) (name : String)
    {kinds : List Kind} {values : List Value} (inside : Action.ArgumentsDerive kinds values) :
    follow? next? (.firstArgument head done name) kinds =
      follow? next? (.argument head done name []) kinds := by
  have notClosing {kind : Kind} {value : Value} (argument : kind.IsArgument value) :
      kind ≠ .rightParenthesis := by
    rintro rfl
    cases Kind.isArgument_iff.mp argument
  cases inside with
  | one argument =>
    rw [follow?_cons, follow?_cons, next?_firstArgument head done name (notClosing argument)]
  | more argument =>
    rw [follow?_cons, follow?_cons, next?_firstArgument head done name (notClosing argument)]

/-- Arguments are read one by one, from a place where one has to follow. -/
theorem run_of_argumentsDerive (head : Header) (done : List Action) (name : String)
    {kinds : List Kind} {values : List Value} (derivation : Action.ArgumentsDerive kinds values)
    (earlier : List Value) : follow? next? (.argument head done name earlier) kinds =
      some (.separator head done name (earlier ++ values)) := by
  have read {kind : Kind} {value : Value} (argument : kind.IsArgument value)
      (earlier : List Value) : next? (.argument head done name earlier) kind =
        some (.separator head done name (earlier ++ [value])) := by
    rw [next?, Kind.isArgument_iff.mp argument, Option.map_some]
  induction derivation generalizing earlier with
  | one argument => rw [follow?_cons_of_next (read argument earlier), follow?_nil]
  | more argument _ ih =>
    rw [follow?_cons_of_next (read argument earlier), follow?_cons_of_next rfl, ih,
      List.append_assoc, List.singleton_append]

/-- An action begins with its name, and behind it the reader takes the rest of it. -/
theorem run_of_actionDerives (head : Header) (done : List Action) {kinds : List Kind}
    {action : Action} (derivation : Action.Derives kinds action) :
    ∃ name tail, kinds = .identifier name :: tail ∧
      follow? next? (.opening head done name) tail = some (.actions head (done ++ [action])) := by
  cases derivation with
  | bare name => exact ⟨name, _, rfl, rfl⟩
  | @applied name kinds values inside =>
    refine ⟨name, .leftParenthesis :: kinds ++ [.rightParenthesis], rfl, ?_⟩
    have run := run_of_argumentsDerive head done name inside []
    rw [← follow?_firstArgument head done name inside, List.nil_append] at run
    rw [List.cons_append, follow?_cons_of_next rfl, follow?_append_of_run run,
      follow?_cons_of_next rfl, follow?_nil]

/-- Behind a header that may end the reader takes actions, as many as there are. -/
theorem run_of_sequenceDerives {reading : HeaderReading} {head : Header}
    (ready : reading.header? = some head) {kinds : List Kind} {actions : List Action}
    (derivation : Action.SequenceDerives kinds actions) :
    follow? next? (.header reading) kinds =
      some (if actions = [] then .header reading else .actions head actions) := by
  induction derivation with
  | nil => rfl
  | @snoc front kinds done action _ last ih =>
    obtain ⟨name, tail, rfl, run⟩ := run_of_actionDerives head done last
    -- The first action begins behind the header, every other one behind an action.
    have opened : next? (if done = [] then .header reading else .actions head done)
        (.identifier name) = some (.opening head done name) := by
      split
      · next noneDone => rw [next?, ready, noneDone]
      · rfl
    rw [follow?_append_of_run ih, follow?_cons_of_next opened, run, if_neg (by simp)]

/-- The reader of rules takes every rule. -/
theorem run_of_derives {kinds : List Kind} {rule : Rule} (derivation : Rule.Derives kinds rule) :
    follow? next? (.header .start) kinds = some (.actions rule.toHeader rule.actions) := by
  obtain ⟨front, tail, nonempty⟩ := derivation
  obtain ⟨reading, run, ready⟩ := HeaderReading.run_of_derives front
  rw [follow?_append_of_run (follow?_lift RuleReading.header next?_header run),
    run_of_sequenceDerives ready tail, if_neg nonempty]

end RuleReading

end ActiveRules
