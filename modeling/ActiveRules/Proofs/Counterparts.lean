import ActiveRules.Proofs.Acceptance
import ActiveRules.Proofs.Calls
import ActiveRules.Proofs.DueCallbacks
import ActiveRules.Proofs.TrailingSpace
import ActiveRules.Proofs.WrittenRules

/-!
# Lambda rules and their counterparts

A lambda rule has a header and callbacks, a rule has a header and actions.  With one action on a
line of its own behind the text of the header, the text of the one becomes that of the other, and
both act on the same signals and subjects.

## Main definitions

* `Outcome.Agrees`: a lambda rule and a rule came to the same.

## Main statements

* `kindsAhead_line`: the kinds of the tokens of two texts with a line feed between them.
* `Rule.derives_snoc_bare_iff`: a sentence with one action behind it is a rule of that action alone
  exactly if it is a header.
* `LambdaRule.apply_agrees`: a lambda rule and a rule with the same header come to the same.
* `lambda_rules_agree_with_written_rules`: the counterpart of a text, and what both come to.
-/

namespace ActiveRules

/-! ## Texts -/

/-- The kinds of the tokens of two texts with a line feed between them. -/
theorem kindsAhead_line {text : List Char} (noReturn : text.getLast? ≠ some '\r')
    (more : List Char) :
    kindsAhead (text ++ '\n' :: more) = kindsAhead text ++ kindsAhead more := by
  have parts := Cursor.tokens_line ⟨text, .start⟩ noReturn more
  have kinds := congrArg (List.map Token.kind) parts
  rwa [List.map_append, Cursor.tokens_kind, Cursor.tokens_kind, Cursor.tokens_kind] at kinds

/-- An action without arguments on a line of its own.  The space in front of the line feed keeps a
carriage return at the end of the text from becoming part of the line end. -/
theorem kindsAhead_bare_action {name : String} (identifier : IsIdentifier name)
    (text : List Char) :
    kindsAhead (text ++ [' ', '\n'] ++ name.toList ++ ['(', ')']) =
      kindsAhead text ++ [.identifier name, .leftParenthesis, .rightParenthesis] := by
  have noReturn : (text ++ [' ']).getLast? ≠ some '\r' := by simp
  have layout : text ++ [' ', '\n'] ++ name.toList ++ ['(', ')'] =
      (text ++ [' ']) ++ '\n' :: (name.toList ++ ['(', ')']) := by simp
  rw [layout, kindsAhead_line noReturn, kindsAhead_append_space,
    kindsAhead_identifier identifier (delimited_leftParenthesis _), kindsAhead_leftParenthesis,
    kindsAhead_rightParenthesis, kindsAhead_nil]

/-! ## Sentences -/

/-- An action without arguments is its name and two parentheses. -/
theorem Action.Derives.eq_bare {kinds : List Kind} {name : String}
    (derivation : Action.Derives kinds ⟨name, []⟩) :
    kinds = [.identifier name, .leftParenthesis, .rightParenthesis] := by
  cases derivation with
  | bare => rfl
  | applied _ inside => cases inside

theorem Action.SequenceDerives.eq_nil {kinds : List Kind} (derivation : SequenceDerives kinds []) :
    kinds = [] := by
  generalize empty : ([] : List Action) = actions at derivation
  cases derivation with
  | nil => rfl
  | snoc => simp at empty

/-- One action alone is a sentence for that action. -/
theorem Action.SequenceDerives.eq_singleton {kinds : List Kind} {action : Action}
    (derivation : SequenceDerives kinds [action]) : Action.Derives kinds action := by
  generalize one : [action] = actions at derivation
  cases derivation with
  | nil => cases one
  | snoc earlier last =>
    obtain ⟨rfl, same⟩ := List.append_inj' ((List.nil_append [action]).trans one) rfl
    cases same
    rw [earlier.eq_nil, List.nil_append]
    exact last

/-- A sentence with one action behind it is a rule of that action alone exactly if it is a
header. -/
theorem Rule.derives_snoc_bare_iff {kinds : List Kind} {header : Header} {name : String} :
    Rule.Derives (kinds ++ [.identifier name, .leftParenthesis, .rightParenthesis])
      ⟨header, [⟨name, []⟩]⟩ ↔ Header.Derives kinds header := by
  constructor
  · intro derivation
    generalize whole : kinds ++ [.identifier name, .leftParenthesis, .rightParenthesis] = sentence
      at derivation
    cases derivation with
    | @intro front behind _ _ head tail _ =>
      rw [tail.eq_singleton.eq_bare] at whole
      rwa [List.append_cancel_right whole]
  · intro head
    exact .intro head (.snoc .nil (.bare name)) (List.cons_ne_nil _ _)

/-! ## What they come to -/

/-- A lambda rule and a rule came to the same.  The lambda rule matched if actions were called for;
it was passed over or did not match if the rule was done without calling for any; and its condition
failed if that of the rule did. -/
structure Outcome.Agrees (outcome : Except ConditionFault Outcome)
    (result : Except RuleFault Unit) (calls : List Call) : Prop where
  acts : (∃ answer, outcome = .ok (.matched answer)) ↔ calls ≠ []
  rests : (outcome = .ok .skipped ∨ ∃ answer, outcome = .ok (.unmatched answer)) ↔
    result = .ok () ∧ calls = []
  fails (fault : ConditionFault) : outcome = .error fault ↔ result = .error (.condition fault)

/-- What a rule that fires reads and asks for, and why it may fail, by its condition's value. -/
theorem Rule.of_evaluated {rule : Rule} {signal : String} {access : Access}
    {evaluation : Evaluation} (fires : rule.trigger = signal)
    (evaluated : Condition.evaluateOptional access rule.condition = evaluation) :
    rule.readsOn signal access = evaluation.reads ∧
    rule.dueActions signal access =
      (if evaluation.result matches .ok true then rule.actions else []) ∧
    rule.fault? signal access = fun failed =>
      match evaluation.result with
      | .error fault => some (.condition fault)
      | .ok _ => if failed.isEmpty then none else some (.actions failed) := by
  subst evaluated
  have due : rule.firesOn signal = true := by simpa [Header.firesOn] using fires
  refine ⟨?_, ?_, funext fun failed => ?_⟩
  · rw [readsOn, if_pos due]
  · rw [dueActions, isDue, due]
    rfl
  · exact if_pos due

variable {C S T : Type}

/-- A lambda rule and a rule with the same header come to the same, and both read the same. -/
theorem LambdaRule.apply_agrees (lambda : LambdaRule C) {actions : List Action}
    (nonempty : actions ≠ []) (call : Caller C T) (other : T) (executor : Executor S)
    (access : S → Access) (signal : String) (state : S) :
    let rule : Rule := ⟨lambda.header, actions⟩
    let applied := lambda.apply call signal (access state) other
    let run := rule.apply signal access executor state
    let calls := executor.calls (rule.dueActions signal (access state)) state
    Outcome.Agrees applied.value run.value calls ∧ run.reads = applied.reads ∧
      (calls = [] ∨ calls.map Call.action = actions) := by
  intro rule applied run calls
  have course : lambda.Course call signal (access state) other applied :=
    lambda.apply_course call signal (access state) other
  have ran : run = _ := rule.apply_eq executor access signal state
  rw [ran]
  dsimp only [calls]
  generalize applied = outcome at course ⊢
  cases course with
  | skipped differs =>
    have idle : rule.firesOn signal = false := by simpa [rule, Header.firesOn] using differs
    simp only [Rule.dueActions, Rule.isDue, Rule.fault?, Rule.readsOn, idle]
    exact ⟨by constructor <;> simp, rfl, .inl rfl⟩
  | failed fires evaluated =>
    obtain ⟨reads, due, fault⟩ :=
      Rule.of_evaluated (show rule.trigger = signal from fires) evaluated
    rw [reads, due, fault]
    exact ⟨by constructor <;> simp [eq_comm], rfl, .inl rfl⟩
  | matched fires evaluated called =>
    obtain ⟨reads, due, fault⟩ :=
      Rule.of_evaluated (show rule.trigger = signal from fires) evaluated
    have calls := executor.map_action_calls actions state
    have someCalls : executor.calls actions state ≠ [] := by
      intro noCall
      rw [noCall] at calls
      exact nonempty calls.symm
    rw [reads, due, fault]
    refine ⟨?_, rfl, .inr calls⟩
    constructor
    · simpa using someCalls
    · simpa using fun _ => someCalls
    · -- Actions that failed are a fault of their own.
      intro fault
      cases failed : (Rule.runActions executor rule.trigger 0 rule.actions state).value <;>
        simp [failed]
  | unanswered fires evaluated _ | unmatched fires evaluated _ _ =>
    obtain ⟨reads, due, fault⟩ :=
      Rule.of_evaluated (show rule.trigger = signal from fires) evaluated
    rw [reads, due, fault]
    exact ⟨by constructor <;> simp [Rule.runActions], rfl, .inl rfl⟩

/-- A lambda rule is a rule with one action in place of callbacks.  A text is a header exactly if
the text with an action without arguments on a line of its own behind it is a rule with this header
and this action alone, whatever the text ends in.  On every signal and every subject the lambda
rule and the rule come to the same and read the same properties in the same order, and the executor
is asked for the action once or for nothing. -/
theorem lambda_rules_agree_with_written_rules {name : String} (identifier : IsIdentifier name)
    (text : String) (header : Header) :
    (Header.parse text = .ok header ↔
      Rule.parse (text ++ " \n" ++ name ++ "()") = .ok ⟨header, [⟨name, []⟩]⟩) ∧
    ∀ (C S T : Type) (onMatch : C) (onMismatch : Option C) (call : Caller C T) (other : T)
      (executor : Executor S) (access : S → Access) (signal : String) (state : S),
      let lambda : LambdaRule C := ⟨header, onMatch, onMismatch⟩
      let rule : Rule := ⟨header, [⟨name, []⟩]⟩
      let applied := lambda.apply call signal (access state) other
      let run := rule.apply signal access executor state
      let watched := rule.apply signal (access ∘ Prod.snd) executor.recorded ([], state)
      let calls := watched.state.1
      watched = ⟨run.value, run.reads, run.log, (calls, run.state)⟩ ∧
        Outcome.Agrees applied.value run.value calls ∧ run.reads = applied.reads ∧
        (calls = [] ∨ calls.map Call.action = [⟨name, []⟩]) := by
  constructor
  · have layout : (text ++ " \n" ++ name ++ "()").toList =
        text.toList ++ [' ', '\n'] ++ name.toList ++ ['(', ')'] := by simp
    rw [Header.parse_eq_ok_iff, Rule.parse_eq_ok_iff, layout, kindsAhead_bare_action identifier,
      Rule.derives_snoc_bare_iff]
  · intro C S T onMatch onMismatch call other executor access signal state lambda rule applied run
      watched calls
    have recorded : watched = _ := rule.apply_recorded executor access signal [] state
    have made : calls = executor.calls (rule.dueActions signal (access state)) state := by
      rw [show calls = watched.state.1 from rfl, recorded, List.nil_append]
    refine ⟨by rw [made, recorded, List.nil_append], ?_⟩
    rw [made]
    exact lambda.apply_agrees (List.cons_ne_nil _ _) call other executor access signal state

/-- A comment that the text of a header ends in does not hide the action on the next line. -/
theorem comment_behind_header_hides_no_action :
    IsIdentifier "maximize" ∧ Header.parse "on created # until" = .ok ⟨"created", none⟩ ∧
    Rule.parse ("on created # until" ++ " \n" ++ "maximize" ++ "()") =
      .ok ⟨⟨"created", none⟩, [⟨"maximize", []⟩]⟩ := by
  have identifier : IsIdentifier "maximize" := by decide
  have read : (Header.parse "on created # until").toOption.map
      (fun header => (header.trigger, header.condition.isNone)) = some ("created", true) := by
    decide +kernel
  have parsed : Header.parse "on created # until" = .ok ⟨"created", none⟩ := by
    cases parsed : Header.parse "on created # until" with
    | error fault =>
      rw [parsed] at read
      cases read
    | ok header =>
      obtain ⟨trigger, condition⟩ := header
      simp only [parsed, Except.toOption, Option.map_some, Option.some.injEq, Prod.mk.injEq,
        Option.isNone_iff_eq_none] at read
      obtain ⟨rfl, rfl⟩ := read
      rfl
  have agree := lambda_rules_agree_with_written_rules identifier "on created # until"
    ⟨"created", none⟩
  exact ⟨identifier, parsed, agree.1.mp parsed⟩

end ActiveRules
