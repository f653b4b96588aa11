import ActiveRules.Proofs.Sentences

/-!
# Readings span what was read

What a reading holds determines how the kinds that led to it are made up: of sentences already
recognised, of the connectives behind them, and of the parentheses still open.  Every token that
extends a reading keeps this true, so it holds of every reading that is reached.

## Main definitions

* `Waits`: the kinds of an operand that waits to the left of a connective.
* `Pending.Spans`: the kinds of one level of parentheses, up to the next operand.
* `ConditionReading.Spans`, `HeaderReading.Spans`, `RuleReading.Spans`: the kinds that a reading
  accounts for.

## Main statements

* `ConditionReading.Spans.next`, `HeaderReading.Spans.next`, `RuleReading.Spans.next`: what one
  token preserves.
* `HeaderReading.Spans.derives`, `RuleReading.Spans.derives`: a reading that may end accounts for a
  sentence.
-/

namespace ActiveRules

/-- The kinds that an operand to the left of a connective accounts for, if there is one. -/
inductive Waits (stratum : Stratum) (connective : Keyword) : Option Condition → List Kind → Prop
    where
  | nothing : Waits stratum connective none []
  | operand {kinds : List Kind} {condition : Condition}
      (left : Condition.Derives stratum kinds condition) :
      Waits stratum connective (some condition) (kinds ++ [.keyword connective])

namespace Waits

/-- A conjunction closes the disjunction that waits for it. -/
theorem disjoin {disjunction : Option Condition} {front kinds : List Kind}
    {conjunction : Condition} (waits : Waits .disjunction .or disjunction front)
    (last : Condition.Derives .conjunction kinds conjunction) :
    Condition.Derives .disjunction (front ++ kinds)
      (Pending.disjoin disjunction conjunction) := by
  cases waits with
  | nothing => exact .conjunction last
  | operand left =>
    rw [List.append_assoc, List.singleton_append]
    exact .or left last

end Waits

namespace Pending

/-- The kinds that one level of parentheses accounts for, up to an operand that is still to
come. -/
inductive Spans : Pending → List Kind → Prop where
  | intro {disjunction conjunction : Option Condition} {front middle : List Kind}
      (outer : Waits .disjunction .or disjunction front)
      (inner : Waits .conjunction .and conjunction middle) (negations : Nat) :
      Spans ⟨disjunction, conjunction, negations⟩
        (front ++ middle ++ List.replicate negations (.keyword .not))

theorem spans_empty : empty.Spans [] := .intro .nothing .nothing 0

/-- Negations in front of an operand. -/
theorem derives_negate {kinds : List Kind} {operand : Condition}
    (derivation : Condition.Derives .unary kinds operand) (n : Nat) :
    Condition.Derives .unary (List.replicate n (.keyword .not) ++ kinds) (negate operand n) := by
  induction n with
  | zero => exact derivation
  | succ n ih => exact .not ih

/-- An operand completes the conjunction that waits for it and leaves the disjunction waiting. -/
theorem Spans.conjoin {pending : Pending} {front kinds : List Kind} {operand : Condition}
    (spans : pending.Spans front) (derivation : Condition.Derives .unary kinds operand) :
    ∃ before after, front ++ kinds = before ++ after ∧
      Waits .disjunction .or pending.disjunction before ∧
      Condition.Derives .conjunction after (pending.conjoin operand) := by
  obtain ⟨outer, inner, negations⟩ := spans
  have negated := derives_negate derivation negations
  cases inner with
  | nothing => exact ⟨_, _, by simp, outer, .unary negated⟩
  | operand left => exact ⟨_, _, by simp, outer, .and left negated⟩

theorem Spans.not {pending : Pending} {kinds : List Kind} (spans : pending.Spans kinds) :
    Spans { pending with negations := pending.negations + 1 } (kinds ++ [.keyword .not]) := by
  obtain ⟨outer, inner, negations⟩ := spans
  rw [List.append_assoc, ← List.replicate_succ']
  exact .intro outer inner (negations + 1)

end Pending

namespace ConditionReading

/-- The kinds that the levels of parentheses around the current one account for. -/
inductive OuterSpans : List Pending → List Kind → Prop where
  | nil : OuterSpans [] []
  | cons {outer : List Pending} {pending : Pending} {front kinds : List Kind}
      (around : OuterSpans outer front) (level : pending.Spans kinds) :
      OuterSpans (pending :: outer) (front ++ kinds ++ [.leftParenthesis])

/-- The kinds that a reading accounts for. -/
inductive Spans : ConditionReading → List Kind → Prop where
  | operand {outer : List Pending} {pending : Pending} {front kinds : List Kind}
      (around : OuterSpans outer front) (level : pending.Spans kinds) :
      Spans (.operand outer pending) (front ++ kinds)
  | comparison {outer : List Pending} {pending : Pending} {front kinds : List Kind}
      (around : OuterSpans outer front) (level : pending.Spans kinds) (property : String) :
      Spans (.comparison outer pending property) (front ++ kinds ++ [.identifier property])
  | literal {outer : List Pending} {pending : Pending} {front kinds : List Kind}
      (around : OuterSpans outer front) (level : pending.Spans kinds) (property : String)
      (comparison : Comparison) :
      Spans (.literal outer pending property comparison)
        (front ++ kinds ++ [.identifier property, .comparison comparison])
  | joined {outer : List Pending} {disjunction : Option Condition} {conjunction : Condition}
      {front middle kinds : List Kind} (around : OuterSpans outer front)
      (waits : Waits .disjunction .or disjunction middle)
      (last : Condition.Derives .conjunction kinds conjunction) :
      Spans (.joined outer disjunction conjunction) (front ++ middle ++ kinds)

theorem spans_start : Spans .start [] := .operand .nil Pending.spans_empty

/-- Behind an operand its level is joined up to there. -/
theorem spans_complete {outer : List Pending} {pending : Pending} {front kinds more : List Kind}
    {operand : Condition} (around : OuterSpans outer front) (level : pending.Spans kinds)
    (derivation : Condition.Derives .unary more operand) :
    Spans (complete outer pending operand) (front ++ kinds ++ more) := by
  obtain ⟨before, after, parts, waits, last⟩ := level.conjoin derivation
  rw [List.append_assoc, parts, ← List.append_assoc]
  exact .joined around waits last

/-- Every token that extends a reading is accounted for. -/
theorem Spans.next {reading later : ConditionReading} {front : List Kind} {kind : Kind}
    (spans : reading.Spans front) (step : reading.next? kind = some later) :
    later.Spans (front ++ [kind]) := by
  cases spans with
  | operand around level =>
    cases kind with
    | keyword keyword =>
      cases keyword with
      | not =>
        cases step
        rw [List.append_assoc]
        exact .operand around level.not
      | _ => cases step
    | leftParenthesis =>
      cases step
      rw [← List.append_nil (_ ++ [_])]
      exact .operand (.cons around level) Pending.spans_empty
    | identifier property => cases step; exact .comparison around level property
    | _ => cases step
  | comparison around level property =>
    cases kind with
    | comparison comparison =>
      cases step
      rw [List.append_assoc]
      exact .literal around level property comparison
    | _ => cases step
  | literal around level property comparison =>
    obtain ⟨value, found, rfl⟩ := Option.map_eq_some_iff.mp step
    rw [List.append_assoc]
    exact spans_complete around level (.compare (Kind.isLiteral_iff.mpr found))
  | @joined _ disjunction conjunction _ _ _ around waits last =>
    cases kind with
    | keyword keyword =>
      cases keyword with
      | and =>
        cases step
        have level := Pending.Spans.intro waits (.operand last) 0
        rw [List.replicate_zero, List.append_nil, ← List.append_assoc] at level
        rw [List.append_assoc, List.append_assoc, ← List.append_assoc _ _ [_]]
        exact .operand around level
      | or =>
        -- The conjunction is over: with it the disjunction is an operand of the new connective.
        cases step
        have level := Pending.Spans.intro (.operand (waits.disjoin last)) .nothing 0
        rw [List.replicate_zero, List.append_nil, List.append_nil] at level
        rw [List.append_assoc, List.append_assoc, ← List.append_assoc _ _ [_]]
        exact .operand around level
      | _ => cases step
    | rightParenthesis =>
      cases around with
      | nil => cases step
      | cons around level =>
        -- What stands between the parentheses becomes one operand of the level around them.
        cases step
        have inside := Condition.Derives.parentheses (waits.disjoin last)
        have spans := spans_complete around level inside
        simp only [List.append_assoc, List.cons_append, List.nil_append] at spans ⊢
        exact spans
    | _ => cases step

/-- A reading that may end accounts for a whole condition. -/
theorem Spans.derives {reading : ConditionReading} {kinds : List Kind} {condition : Condition}
    (spans : reading.Spans kinds) (ended : reading.condition? = some condition) :
    Condition.Derives .disjunction kinds condition := by
  cases spans with
  | joined around waits last =>
    cases around with
    | nil => cases ended; exact waits.disjoin last
    | cons => cases ended
  | _ => cases ended

end ConditionReading

namespace HeaderReading

/-- The kinds that a reading accounts for. -/
inductive Spans : HeaderReading → List Kind → Prop where
  | start : Spans .start []
  | trigger : Spans .trigger [.keyword .on]
  | named (trigger : String) : Spans (.named trigger) [.keyword .on, .identifier trigger]
  | guarded (trigger : String) {reading : ConditionReading} {kinds : List Kind}
      (inner : reading.Spans kinds) :
      Spans (.guarded trigger reading)
        (.keyword .on :: .identifier trigger :: .keyword .if :: kinds)

/-- Every token that extends a reading is accounted for. -/
theorem Spans.next {reading later : HeaderReading} {front : List Kind} {kind : Kind}
    (spans : reading.Spans front) (step : reading.next? kind = some later) :
    later.Spans (front ++ [kind]) := by
  cases spans with
  | start =>
    cases kind with
    | keyword keyword =>
      cases keyword with
      | on => cases step; exact .trigger
      | _ => cases step
    | _ => cases step
  | trigger =>
    cases kind with
    | identifier name => cases step; exact .named name
    | _ => cases step
  | named trigger =>
    cases kind with
    | keyword keyword =>
      cases keyword with
      | «if» => cases step; exact .guarded trigger ConditionReading.spans_start
      | _ => cases step
    | _ => cases step
  | guarded trigger inner =>
    obtain ⟨reading, extended, rfl⟩ := Option.map_eq_some_iff.mp step
    exact .guarded trigger (inner.next extended)

/-- A reading that may end accounts for a whole header. -/
theorem Spans.derives {reading : HeaderReading} {kinds : List Kind} {header : Header}
    (spans : reading.Spans kinds) (ended : reading.header? = some header) :
    Header.Derives kinds header := by
  cases spans with
  | named trigger => cases ended; exact .plain trigger
  | guarded trigger inner =>
    obtain ⟨condition, closed, rfl⟩ := Option.map_eq_some_iff.mp ended
    exact .guarded trigger (inner.derives closed)
  | _ => cases ended

end HeaderReading

/-- One more argument at the end of others. -/
theorem Action.ArgumentsDerive.snoc {kinds : List Kind} {values : List Value} {kind : Kind}
    {value : Value} (derivation : ArgumentsDerive kinds values)
    (argument : kind.IsArgument value) :
    ArgumentsDerive (kinds ++ [.comma, kind]) (values ++ [value]) := by
  induction derivation with
  | one first => exact .more first (.one argument)
  | more first _ ih => exact .more first ih

namespace RuleReading

/-- The kinds that a header and the actions behind it account for. -/
inductive Begun : Header → List Action → List Kind → Prop where
  | intro {front kinds : List Kind} {head : Header} {done : List Action}
      (first : Header.Derives front head) (earlier : Action.SequenceDerives kinds done) :
      Begun head done (front ++ kinds)

theorem Begun.snoc {head : Header} {done : List Action} {front kinds : List Kind}
    {action : Action} (begun : Begun head done front) (last : Action.Derives kinds action) :
    Begun head (done ++ [action]) (front ++ kinds) := by
  obtain ⟨first, earlier⟩ := begun
  rw [List.append_assoc]
  exact .intro first (.snoc earlier last)

/-- The kinds that a reading accounts for. -/
inductive Spans : RuleReading → List Kind → Prop where
  | header {reading : HeaderReading} {kinds : List Kind} (inner : reading.Spans kinds) :
      Spans (.header reading) kinds
  | opening {head : Header} {done : List Action} {front : List Kind}
      (begun : Begun head done front) (name : String) :
      Spans (.opening head done name) (front ++ [.identifier name])
  | firstArgument {head : Header} {done : List Action} {front : List Kind}
      (begun : Begun head done front) (name : String) :
      Spans (.firstArgument head done name) (front ++ [.identifier name, .leftParenthesis])
  | argument {head : Header} {done : List Action} {front kinds : List Kind}
      {values : List Value} (begun : Begun head done front) (name : String)
      (inside : Action.ArgumentsDerive kinds values) :
      Spans (.argument head done name values)
        (front ++ .identifier name :: .leftParenthesis :: kinds ++ [.comma])
  | separator {head : Header} {done : List Action} {front kinds : List Kind}
      {values : List Value} (begun : Begun head done front) (name : String)
      (inside : Action.ArgumentsDerive kinds values) :
      Spans (.separator head done name values)
        (front ++ .identifier name :: .leftParenthesis :: kinds)
  | actions {head : Header} {done : List Action} {front : List Kind}
      (begun : Begun head done front) (nonempty : done ≠ []) : Spans (.actions head done) front

/-- The first action begins behind a header that may end, and every other token extends the
header. -/
theorem next?_header_cases {reading : HeaderReading} {later : RuleReading} {kind : Kind}
    (step : next? (.header reading) kind = some later) :
    (∃ name head, kind = .identifier name ∧ reading.header? = some head ∧
      later = .opening head [] name) ∨
    (∃ extended, reading.next? kind = some extended ∧ later = .header extended) := by
  cases kind with
  | identifier name =>
    cases closed : reading.header? with
    | some head =>
      rw [next?, closed] at step
      cases step
      exact .inl ⟨name, head, rfl, rfl, rfl⟩
    | none =>
      rw [next?, closed] at step
      obtain ⟨extended, found, rfl⟩ := Option.map_eq_some_iff.mp step
      exact .inr ⟨extended, found, rfl⟩
  | _ =>
    obtain ⟨extended, found, rfl⟩ := Option.map_eq_some_iff.mp step
    exact .inr ⟨extended, found, rfl⟩

/-- Behind the parenthesis of an action it is closed at once, or a first argument follows. -/
theorem next?_firstArgument_cases {head : Header} {done : List Action} {name : String}
    {later : RuleReading} {kind : Kind}
    (step : next? (.firstArgument head done name) kind = some later) :
    (kind = .rightParenthesis ∧ later = .actions head (done ++ [⟨name, []⟩])) ∨
    (∃ value, kind.IsArgument value ∧ later = .separator head done name [value]) := by
  by_cases closing : kind = .rightParenthesis
  · subst closing
    cases step
    exact .inl ⟨rfl, rfl⟩
  · rw [next?_firstArgument head done name closing] at step
    obtain ⟨value, found, rfl⟩ := Option.map_eq_some_iff.mp step
    exact .inr ⟨value, Kind.isArgument_iff.mpr found, rfl⟩

/-- Every token that extends a reading is accounted for. -/
theorem Spans.next {reading later : RuleReading} {front : List Kind} {kind : Kind}
    (spans : reading.Spans front) (step : reading.next? kind = some later) :
    later.Spans (front ++ [kind]) := by
  cases spans with
  | header inner =>
    obtain ⟨name, head, rfl, closed, rfl⟩ | ⟨extended, found, rfl⟩ := next?_header_cases step
    · have begun := Begun.intro (inner.derives closed) .nil
      rw [List.append_nil] at begun
      exact .opening begun name
    · exact .header (inner.next found)
  | opening begun name =>
    cases kind with
    | leftParenthesis =>
      cases step
      rw [List.append_assoc]
      exact .firstArgument begun name
    | _ => cases step
  | firstArgument begun name =>
    obtain ⟨rfl, rfl⟩ | ⟨value, argument, rfl⟩ := next?_firstArgument_cases step
    · rw [List.append_assoc]
      exact .actions (begun.snoc (.bare name)) (by simp)
    · rw [List.append_assoc]
      exact .separator begun name (.one argument)
  | argument begun name inside =>
    obtain ⟨value, found, rfl⟩ := Option.map_eq_some_iff.mp step
    have more := inside.snoc (Kind.isArgument_iff.mpr found)
    simpa using Spans.separator begun name more
  | separator begun name inside =>
    cases kind with
    | comma => cases step; exact .argument begun name inside
    | rightParenthesis =>
      cases step
      rw [List.append_assoc]
      exact .actions (begun.snoc (.applied name inside)) (by simp)
    | _ => cases step
  | actions begun _ =>
    cases kind with
    | identifier name => cases step; exact .opening begun name
    | _ => cases step

/-- A reading that may end accounts for a whole rule. -/
theorem Spans.derives {reading : RuleReading} {kinds : List Kind} {rule : Rule}
    (spans : reading.Spans kinds) (ended : reading.rule? = some rule) :
    Rule.Derives kinds rule := by
  cases spans with
  | actions begun nonempty =>
    cases ended
    obtain ⟨first, earlier⟩ := begun
    exact .intro first earlier nonempty
  | _ => cases ended

end RuleReading

end ActiveRules
