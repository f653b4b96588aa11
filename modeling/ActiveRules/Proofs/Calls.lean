import ActiveRules.RuleBase
import Mathlib.Data.List.Basic

/-!
# Which actions an executor is asked for

The application of a rule base is two nested loops, over rules and over their actions, in which
three kinds of faults can occur and none of them stops what follows.  Seen from the executor it is
one loop: over the actions that are due.

## Main definitions

* `Call`: what an executor was asked for and what it answered.
* `Executor.recorded`: an executor that also writes down its calls.
* `Executor.LeavesReads`: nothing that an executor does changes what an access reads.
* `DueAction`, `RuleBase.dueActions`: the actions that a signal calls for, in load order.
* `FailedRule.of?`: what a rule adds to the report, given how the due actions were answered.

## Main statements

* `Rule.apply_eq`: a rule carries out its due actions.
* `Rule.apply_recorded`: what one rule asks an executor for.
* `RuleBase.applyRules_recorded`, `RuleBase.applyRules_state`, `RuleBase.applyRules_value`: the
  same for rules in order, the state that they leave, and what they report.
* `RuleBase.apply_calls_due_actions`: the executor is asked for the due actions and for nothing
  else, and the report tells how it went.
-/

namespace ActiveRules

variable {S : Type}

/-! ## Accesses that read alike -/

/-- The evaluation of a condition depends on the properties that it reads and on no others. -/
theorem Condition.evaluate_congr_of_reads {access other : Access} {condition : Condition}
    (alike : ∀ property ∈ (condition.evaluate access).reads,
      access.read property = other.read property) :
    condition.evaluate access = condition.evaluate other := by
  induction condition with
  | compare property comparison value =>
    rw [evaluate, evaluate, Access.compare, Access.compare,
      alike property (List.mem_singleton_self property)]
  | and left right leftHypothesis rightHypothesis =>
    rw [evaluate] at alike ⊢
    cases first : left.evaluate access with
    | mk result reads =>
      rw [first] at alike leftHypothesis
      cases result with
      | error fault => rw [evaluate, ← leftHypothesis alike]
      | ok holds =>
        cases holds with
        | false => rw [evaluate, ← leftHypothesis alike]
        | true =>
          -- Only here the right operand is read.
          rw [evaluate, ← leftHypothesis fun property member =>
            alike property (List.mem_append_left _ member),
            rightHypothesis fun property member => alike property (List.mem_append_right _ member)]
  | or left right leftHypothesis rightHypothesis =>
    rw [evaluate] at alike ⊢
    cases first : left.evaluate access with
    | mk result reads =>
      rw [first] at alike leftHypothesis
      cases result with
      | error fault => rw [evaluate, ← leftHypothesis alike]
      | ok holds =>
        cases holds with
        | true => rw [evaluate, ← leftHypothesis alike]
        | false =>
          rw [evaluate, ← leftHypothesis fun property member =>
            alike property (List.mem_append_left _ member),
            rightHypothesis fun property member => alike property (List.mem_append_right _ member)]
  | not inner innerHypothesis => rw [evaluate, evaluate, innerHypothesis alike]

theorem Condition.evaluateOptional_congr {access other : Access}
    (alike : ∀ property, access.read property = other.read property) :
    evaluateOptional access = evaluateOptional other := by
  funext condition
  cases condition with
  | none => rfl
  | some condition => exact condition.evaluate_congr_of_reads fun property _ => alike property

/-! ## Calls -/

/-- A call of an executor: the action that it was asked for, and its answer. -/
structure Call where
  action : Action
  answer : Except ActionFault Unit

/-- The call as a failed action with a place in its rule, if it was refused. -/
def Call.failed? (call : Call) (index : Nat) : Option FailedAction :=
  match call.answer with
  | .ok () => none
  | .error fault => some ⟨index, call.action.name, fault⟩

theorem Call.index_of_failed? {call : Call} {index : Nat} {failed : FailedAction}
    (refused : call.failed? index = some failed) : failed.index = index := by
  unfold failed? at refused
  split at refused <;> cases refused
  rfl

/-- The refused ones among calls of a rule's actions, the first of which has the given place. -/
def Call.refused (first : Nat) (calls : List Call) : List FailedAction :=
  (numbered first calls).filterMap fun placed => placed.2.failed? placed.1

theorem Call.refused_cons (first : Nat) (call : Call) (calls : List Call) :
    refused first (call :: calls) = (call.failed? first).toList ++ refused (first + 1) calls := by
  simp only [refused, numbered, List.filterMap_cons]
  cases call.failed? first <;> rfl

namespace Executor

variable (executor : Executor S)

/-- The state after actions were carried out in order. -/
def after : List Action → S → S
  | [], state => state
  | action :: rest, state => after rest (executor action.name action.arguments state).state

/-- The calls that carrying out actions in order consists of. -/
def calls : List Action → S → List Call
  | [], _ => []
  | action :: rest, state =>
    let execution := executor action.name action.arguments state
    ⟨action, execution.result⟩ :: calls rest execution.state

/-- The executor with a list to which it adds every call. -/
def recorded : Executor (List Call × S) := fun name arguments (calls, state) =>
  let execution := executor name arguments state
  ⟨execution.result, execution.log, (calls ++ [⟨⟨name, arguments⟩, execution.result⟩],
    execution.state)⟩

/-- Nothing that the executor does changes what the access reads. -/
def LeavesReads (access : S → Access) : Prop :=
  ∀ name arguments state property,
    (access (executor name arguments state).state).read property = (access state).read property

@[simp]
theorem after_nil (state : S) : executor.after [] state = state := rfl

theorem after_cons (action : Action) (rest : List Action) (state : S) :
    executor.after (action :: rest) state =
      executor.after rest (executor action.name action.arguments state).state := rfl

@[simp]
theorem calls_nil (state : S) : executor.calls [] state = [] := rfl

theorem calls_cons (action : Action) (rest : List Action) (state : S) :
    executor.calls (action :: rest) state =
      ⟨action, (executor action.name action.arguments state).result⟩ ::
        executor.calls rest (executor action.name action.arguments state).state := rfl

theorem after_append (front back : List Action) (state : S) :
    executor.after (front ++ back) state = executor.after back (executor.after front state) := by
  induction front generalizing state with
  | nil => rfl
  | cons action front ih => exact ih _

theorem calls_append (front back : List Action) (state : S) :
    executor.calls (front ++ back) state =
      executor.calls front state ++ executor.calls back (executor.after front state) := by
  induction front generalizing state with
  | nil => rfl
  | cons action front ih => rw [List.cons_append, calls_cons, ih, calls_cons]; rfl

/-- An executor is called once for each action, in order. -/
@[simp]
theorem map_action_calls (actions : List Action) (state : S) :
    (executor.calls actions state).map Call.action = actions := by
  induction actions generalizing state with
  | nil => rfl
  | cons action rest ih => rw [calls_cons, List.map_cons, ih]

@[simp]
theorem length_calls (actions : List Action) (state : S) :
    (executor.calls actions state).length = actions.length := by
  rw [← List.length_map Call.action, map_action_calls]

variable {executor}

/-- What no call changes, no sequence of calls changes. -/
theorem LeavesReads.after {access : S → Access} (steady : executor.LeavesReads access)
    (actions : List Action) (state : S) (property : String) :
    (access (executor.after actions state)).read property = (access state).read property := by
  induction actions generalizing state with
  | nil => rfl
  | cons action rest ih => rw [after_cons, ih, steady]

end Executor

/-! ## One rule -/

namespace Rule

variable (executor : Executor S) (access : S → Access) (signal : String)

/-- Does the rule fire on the signal, and does its condition hold? -/
def isDue (rule : Rule) (signal : String) (access : Access) : Bool :=
  rule.firesOn signal && (Condition.evaluateOptional access rule.condition).result matches .ok true

/-- The actions that the rule asks for on a signal: all of them or none. -/
def dueActions (rule : Rule) (signal : String) (access : Access) : List Action :=
  if rule.isDue signal access then rule.actions else []

/-- Why the application of the rule is not clean, given its actions that failed. -/
def fault? (rule : Rule) (signal : String) (access : Access) (failed : List FailedAction) :
    Option RuleFault :=
  if rule.firesOn signal then
    match (Condition.evaluateOptional access rule.condition).result with
    | .error fault => some (.condition fault)
    | .ok _ => if failed.isEmpty then none else some (.actions failed)
  else none

/-- The properties that the rule reads on a signal. -/
def readsOn (rule : Rule) (signal : String) (access : Access) : List String :=
  if rule.firesOn signal then (Condition.evaluateOptional access rule.condition).reads else []

/-- The events that the condition of the rule gives rise to on a signal. -/
def conditionEvents (rule : Rule) (signal : String) (access : Access) : List Event :=
  if rule.firesOn signal then
    let evaluation := Condition.evaluateOptional access rule.condition
    let failed := match evaluation.result with
      | .error fault => [.conditionFailed rule.trigger fault]
      | .ok _ => []
    evaluation.log access ++ failed
  else []

/-- Which actions are due depends on what is read, and on nothing else of an access. -/
theorem dueActions_congr {access other : Access}
    (alike : ∀ property, access.read property = other.read property) (rule : Rule)
    (signal : String) : rule.dueActions signal access = rule.dueActions signal other := by
  rw [dueActions, isDue, Condition.evaluateOptional_congr alike]
  rfl

theorem fault?_congr {access other : Access}
    (alike : ∀ property, access.read property = other.read property) (rule : Rule)
    (signal : String) : rule.fault? signal access = rule.fault? signal other := by
  funext failed
  rw [fault?, Condition.evaluateOptional_congr alike]
  rfl

/-- A rule that fails with its actions reports those that were refused. -/
theorem eq_of_fault?_eq_actions {rule : Rule} {signal : String} {access : Access}
    {failed reported : List FailedAction}
    (fault : rule.fault? signal access failed = some (.actions reported)) : reported = failed := by
  unfold fault? at fault
  split at fault
  · split at fault
    · cases fault
    · split at fault
      · cases fault
      · cases fault
        rfl
  · cases fault

/-- One action and then the others.  Whether it fails decides about the report, not about them. -/
theorem runActions_cons (trigger : String) (index : Nat) (action : Action) (rest : List Action)
    (state : S) :
    runActions executor trigger index (action :: rest) state =
      let execution := executor action.name action.arguments state
      let failed := (Call.mk action execution.result).failed? index
      let later := runActions executor trigger (index + 1) rest execution.state
      let events := (failed.map (.actionFailed trigger)).toList
      ⟨failed.toList ++ later.value, [], execution.log ++ events ++ later.log, later.state⟩ := by
  rw [runActions]
  cases outcome : (executor action.name action.arguments state).result <;>
    simp [Call.failed?, outcome]

/-- Every action is called once, whatever the others come to. -/
theorem runActions_recorded (trigger : String) (index : Nat) (actions : List Action)
    (calls : List Call) (state : S) :
    runActions executor.recorded trigger index actions (calls, state) =
      let run := runActions executor trigger index actions state
      ⟨run.value, run.reads, run.log, (calls ++ executor.calls actions state, run.state)⟩ := by
  induction actions generalizing index calls state with
  | nil => simp [runActions]
  | cons action rest ih =>
    rw [runActions_cons, runActions_cons, Executor.calls_cons]
    simp only [Executor.recorded, ih, List.append_assoc, List.singleton_append]

/-- All actions of a rule are carried out, whichever of them fail. -/
theorem runActions_state (trigger : String) (index : Nat) (actions : List Action) (state : S) :
    (runActions executor trigger index actions state).state = executor.after actions state := by
  induction actions generalizing index state with
  | nil => rfl
  | cons action rest ih =>
    rw [runActions_cons]
    exact ih (index + 1) _

/-- The failed actions are the calls that were refused. -/
theorem runActions_value (trigger : String) (index : Nat) (actions : List Action) (state : S) :
    (runActions executor trigger index actions state).value =
      Call.refused index (executor.calls actions state) := by
  induction actions generalizing index state with
  | nil => rfl
  | cons action rest ih =>
    rw [runActions_cons, Executor.calls_cons, Call.refused_cons, ← ih]

/-- A rule is applied by carrying out its due actions, of which there may be none. -/
theorem apply_eq (rule : Rule) (state : S) :
    rule.apply signal access executor state =
      let due := rule.dueActions signal (access state)
      let run := runActions executor rule.trigger 0 due state
      ⟨(rule.fault? signal (access state) run.value).elim (.ok ()) .error,
        rule.readsOn signal (access state), rule.conditionEvents signal (access state) ++ run.log,
        run.state⟩ := by
  unfold apply dueActions isDue fault? readsOn conditionEvents
  cases fires : rule.firesOn signal with
  | false => rfl
  | true =>
    simp only [↓reduceIte, Bool.true_and]
    cases (Condition.evaluateOptional (access state) rule.condition).result with
    | error fault => simp [runActions]
    | ok holds =>
      cases holds with
      | false => simp [runActions]
      | true =>
        simp only [↓reduceIte, List.append_nil]
        split <;> rfl

/-- A rule asks the executor for its due actions. -/
theorem apply_recorded (rule : Rule) (calls : List Call) (state : S) :
    rule.apply signal (access ∘ Prod.snd) executor.recorded (calls, state) =
      let run := rule.apply signal access executor state
      ⟨run.value, run.reads, run.log,
        (calls ++ executor.calls (rule.dueActions signal (access state)) state, run.state)⟩ := by
  simp only [apply_eq, Function.comp_apply, runActions_recorded]

theorem apply_state (rule : Rule) (state : S) :
    (rule.apply signal access executor state).state =
      executor.after (rule.dueActions signal (access state)) state := by
  simp only [apply_eq, runActions_state]

/-- What a rule comes to, by its condition and the calls that were refused. -/
theorem apply_value (rule : Rule) (state : S) :
    (rule.apply signal access executor state).value =
      (rule.fault? signal (access state) (Call.refused 0
        (executor.calls (rule.dueActions signal (access state)) state))).elim (.ok ()) .error := by
  simp only [apply_eq, runActions_value]

end Rule

/-! ## Rules in order -/

theorem le_of_mem_numbered {A : Type} {first : Nat} {elements : List A} {placed : Nat × A}
    (member : placed ∈ numbered first elements) : first ≤ placed.1 := by
  induction elements generalizing first with
  | nil => cases member
  | cons a rest ih =>
    rcases List.mem_cons.mp member with rfl | later
    · exact Nat.le_refl _
    · exact Nat.le_of_succ_le (ih later)

@[simp]
theorem map_snd_numbered {A : Type} (first : Nat) (elements : List A) :
    (numbered first elements).map Prod.snd = elements := by
  induction elements generalizing first with
  | nil => rfl
  | cons a rest ih => rw [numbered, List.map_cons, ih]

theorem pairwise_numbered {A : Type} (first : Nat) (elements : List A) :
    (numbered first elements).Pairwise fun placed other => placed.1 < other.1 := by
  induction elements generalizing first with
  | nil => exact .nil
  | cons a rest ih => exact .cons (fun _ member => le_of_mem_numbered member) (ih (first + 1))

/-- An action that is due, with the place of its rule among the rules and its place in the rule. -/
structure DueAction where
  rule : Nat
  index : Nat
  action : Action

/-- Due actions are ordered by their rules and then by their places in the rule. -/
def DueAction.Before (due other : DueAction) : Prop :=
  due.rule < other.rule ∨ due.rule = other.rule ∧ due.index < other.index

/-- Actions of the rule with a place, the first of which has the given place in it. -/
def DueAction.ofRule (rule first : Nat) (actions : List Action) : List DueAction :=
  (numbered first actions).map fun placed => ⟨rule, placed.1, placed.2⟩

/-- The due actions of rules, the first of which has the given place. -/
def DueAction.ofRules (signal : String) (access : Access) (first : Nat) (rules : List Rule) :
    List DueAction :=
  (numbered first rules).flatMap fun placed =>
    ofRule placed.1 0 (placed.2.dueActions signal access)

/-- The failed actions of the rule with a place, given the due actions with the calls of them. -/
def failedActionsOf (place : Nat) (answered : List (DueAction × Call)) : List FailedAction :=
  (answered.filter fun pair => pair.1.rule == place).filterMap fun pair =>
    pair.2.failed? pair.1.index

/-- What the rule with a place adds to the report, given the due actions with the calls of them. -/
def FailedRule.of? (signal : String) (access : Access) (answered : List (DueAction × Call))
    (placed : Nat × Rule) : Option FailedRule :=
  (placed.2.fault? signal access (failedActionsOf placed.1 answered)).map fun fault =>
    ⟨placed.1, fault⟩

namespace DueAction

variable {signal : String} {access : Access}

@[simp]
theorem map_action_ofRule (rule first : Nat) (actions : List Action) :
    (ofRule rule first actions).map action = actions := by
  rw [ofRule, List.map_map]
  exact map_snd_numbered first actions

theorem ofRules_cons (first : Nat) (rule : Rule) (rest : List Rule) :
    ofRules signal access first (rule :: rest) =
      ofRule first 0 (rule.dueActions signal access) ++ ofRules signal access (first + 1) rest :=
  rfl

theorem rule_of_mem_ofRule {rule first : Nat} {actions : List Action} {due : DueAction}
    (member : due ∈ ofRule rule first actions) : due.rule = rule := by
  obtain ⟨placed, -, rfl⟩ := List.mem_map.mp member
  rfl

theorem le_rule_of_mem_ofRules {first : Nat} {rules : List Rule} {due : DueAction}
    (member : due ∈ ofRules signal access first rules) : first ≤ due.rule := by
  obtain ⟨placed, inside, here⟩ := List.mem_flatMap.mp member
  rw [rule_of_mem_ofRule here]
  exact le_of_mem_numbered inside

/-- Due actions are placed in the order of the rules and of the actions in each rule. -/
theorem pairwise_ofRules (first : Nat) (rules : List Rule) :
    (ofRules signal access first rules).Pairwise Before := by
  refine List.pairwise_flatMap.mpr ⟨fun placed _ => ?_, ?_⟩
  · exact List.pairwise_map.mpr
      ((pairwise_numbered 0 _).imp fun inOrder => .inr ⟨rfl, inOrder⟩)
  · refine (pairwise_numbered first rules).imp fun inOrder due here other there => .inl ?_
    rw [rule_of_mem_ofRule here, rule_of_mem_ofRule there]
    exact inOrder

theorem ofRules_congr {other : Access}
    (alike : ∀ property, access.read property = other.read property) (first : Nat)
    (rules : List Rule) : ofRules signal access first rules = ofRules signal other first rules := by
  simp only [ofRules, Rule.dueActions_congr alike]

end DueAction

theorem FailedRule.of?_congr {signal : String} {access other : Access}
    (alike : ∀ property, access.read property = other.read property) :
    of? signal access = of? signal other := by
  funext answered placed
  rw [of?, Rule.fault?_congr alike]
  rfl

section Reported

variable {signal : String} {access : Access} {answered : List (DueAction × Call)}
  {placed : Nat × Rule} {failure : FailedRule}

theorem FailedRule.index_of_of? (reported : of? signal access answered placed = some failure) :
    failure.index = placed.1 := by
  obtain ⟨fault, -, rfl⟩ := Option.map_eq_some_iff.mp reported
  rfl

/-- A rule whose actions failed is reported with all of them. -/
theorem FailedRule.actions_of_of? (reported : of? signal access answered placed = some failure)
    {failed : List FailedAction} (isActions : failure.fault = .actions failed) :
    failed = failedActionsOf placed.1 answered := by
  obtain ⟨fault, isFault, rfl⟩ := Option.map_eq_some_iff.mp reported
  exact Rule.eq_of_fault?_eq_actions (isFault.trans (congrArg some isActions))

/-- Rules are reported in ascending order. -/
theorem FailedRule.pairwise_filterMap_of? (first : Nat) (rules : List Rule) :
    ((numbered first rules).filterMap (of? signal access answered)).Pairwise
      fun failure other => failure.index < other.index := by
  refine List.pairwise_filterMap.mpr ((pairwise_numbered first rules).imp ?_)
  intro placed other below failure isFailure otherFailure isOtherFailure
  rw [index_of_of? isFailure, index_of_of? isOtherFailure]
  exact below

end Reported

theorem failedActionsOf_append (place : Nat) (front back : List (DueAction × Call)) :
    failedActionsOf place (front ++ back) =
      failedActionsOf place front ++ failedActionsOf place back := by
  rw [failedActionsOf, List.filter_append, List.filterMap_append]
  rfl

/-- The failed actions of a rule stand in the order of the rule. -/
theorem pairwise_failedActionsOf (place : Nat) {answered : List (DueAction × Call)}
    (inOrder : (answered.map Prod.fst).Pairwise DueAction.Before) :
    (failedActionsOf place answered).Pairwise fun failed other => failed.index < other.index := by
  have ofPlace : (answered.filter fun pair => pair.1.rule == place).Pairwise
      fun pair other => pair.1.index < other.1.index := by
    refine List.pairwise_filter.mpr ((List.pairwise_map.mp inOrder).imp ?_)
    intro pair other before here there
    rcases before with below | ⟨-, below⟩
    · rw [eq_of_beq here, eq_of_beq there] at below
      exact absurd below (Nat.lt_irrefl place)
    · exact below
  refine List.pairwise_filterMap.mpr (ofPlace.imp ?_)
  intro pair other below failed isFailed otherFailed isOtherFailed
  rw [Call.index_of_failed? isFailed, Call.index_of_failed? isOtherFailed]
  exact below

/-- Calls for other rules do not count. -/
theorem failedActionsOf_of_ne {place : Nat} {answered : List (DueAction × Call)}
    (others : ∀ pair ∈ answered, pair.1.rule ≠ place) : failedActionsOf place answered = [] := by
  have noCall : answered.filter (fun pair => pair.1.rule == place) = [] :=
    List.filter_eq_nil_iff.mpr fun pair member same => others pair member (eq_of_beq same)
  rw [failedActionsOf, noCall, List.filterMap_nil]

/-- The failed actions of a rule are those of its calls that were refused. -/
theorem failedActionsOf_ofRule (place first : Nat) {actions : List Action} {calls : List Call}
    (length : calls.length = actions.length) :
    failedActionsOf place ((DueAction.ofRule place first actions).zip calls) =
      Call.refused first calls := by
  induction actions generalizing first calls with
  | nil =>
    rw [List.length_eq_zero_iff.mp length]
    rfl
  | cons action rest ih =>
    obtain ⟨call, others, rfl⟩ := List.exists_cons_of_length_eq_add_one length
    rw [Call.refused_cons, ← ih (first + 1) (Nat.succ.inj length)]
    simp only [DueAction.ofRule, numbered, List.map_cons, List.zip_cons_cons, failedActionsOf,
      List.filter_cons, beq_self_eq_true, ↓reduceIte, List.filterMap_cons]
    cases call.failed? first <;> rfl

/-- The calls of one rule's actions count for its report, the calls of the others' for theirs. -/
theorem FailedRule.filterMap_of?_cons (signal : String) (access : Access) (first : Nat)
    (rule : Rule) (rest : List Rule) {own : List Call} (later : List Call)
    (length : own.length = (rule.dueActions signal access).length) :
    let ownDue := DueAction.ofRule first 0 (rule.dueActions signal access)
    let laterDue := DueAction.ofRules signal access (first + 1) rest
    (numbered first (rule :: rest)).filterMap
        (of? signal access (ownDue.zip own ++ laterDue.zip later)) =
      ((rule.fault? signal access (Call.refused 0 own)).map fun fault => ⟨first, fault⟩).toList ++
        (numbered (first + 1) rest).filterMap (of? signal access (laterDue.zip later)) := by
  intro ownDue laterDue
  have behind : ∀ pair ∈ laterDue.zip later, first < pair.1.rule := fun pair member =>
    DueAction.le_rule_of_mem_ofRules (List.of_mem_zip member).1
  have here : ∀ pair ∈ ownDue.zip own, pair.1.rule = first := fun pair member =>
    DueAction.rule_of_mem_ofRule (List.of_mem_zip member).1
  have ownFailed : failedActionsOf first (ownDue.zip own ++ laterDue.zip later) =
      Call.refused 0 own := by
    rw [failedActionsOf_append, failedActionsOf_ofRule first 0 length,
      failedActionsOf_of_ne fun pair member => Nat.ne_of_gt (behind pair member), List.append_nil]
  have laterFailed : ∀ placed ∈ numbered (first + 1) rest,
      of? signal access (ownDue.zip own ++ laterDue.zip later) placed =
        of? signal access (laterDue.zip later) placed := by
    intro placed member
    have elsewhere : ∀ pair ∈ ownDue.zip own, pair.1.rule ≠ placed.1 := fun pair inside =>
      (here pair inside).trans_ne (Nat.ne_of_lt (le_of_mem_numbered member))
    rw [of?, of?, failedActionsOf_append, failedActionsOf_of_ne elsewhere, List.nil_append]
  rw [numbered, List.filterMap_cons, List.filterMap_congr laterFailed, of?, ownFailed]
  cases rule.fault? signal access (Call.refused 0 own) <;> rfl

namespace RuleBase

variable {access : S → Access} {executor : Executor S} {signal : String}

/-- One rule and then the others.  What it comes to decides about the report and not about them. -/
theorem applyRules_cons (signal : String) (access : S → Access) (executor : Executor S)
    (first : Nat) (rule : Rule) (rest : List Rule) (state : S) :
    applyRules signal access executor first (rule :: rest) state =
      let run := rule.apply signal access executor state
      let later := applyRules signal access executor (first + 1) rest run.state
      let failures := match run.value with
        | .ok () => later.value.failures
        | .error fault => ⟨first, fault⟩ :: later.value.failures
      ⟨⟨later.value.fired + if rule.firesOn signal then 1 else 0, failures⟩,
        run.reads ++ later.reads, run.log ++ later.log, later.state⟩ := by
  rw [applyRules]
  cases fires : rule.firesOn signal with
  | true => rfl
  | false => simp [Rule.apply, fires]

/-- Whatever the conditions depend on, rules do nothing to the state but call actions. -/
theorem exists_applyRules_state (signal : String) (access : S → Access) (executor : Executor S)
    (first : Nat) (rules : List Rule) (state : S) :
    ∃ actions, (applyRules signal access executor first rules state).state =
      executor.after actions state := by
  induction rules generalizing first state with
  | nil => exact ⟨[], rfl⟩
  | cons rule rest ih =>
    obtain ⟨others, later⟩ := ih (first + 1) (rule.apply signal access executor state).state
    refine ⟨rule.dueActions signal (access state) ++ others, ?_⟩
    rw [applyRules_cons, Executor.after_append, ← Rule.apply_state]
    exact later

/-- Whatever a rule base does to a state, it does by actions. -/
theorem exists_apply_state (base : RuleBase) (signal : String) (access : S → Access)
    (executor : Executor S) (state : S) :
    ∃ actions, (base.apply signal access executor state).state = executor.after actions state := by
  unfold apply
  split
  · exact exists_applyRules_state signal access executor 0 base.rules state
  · exact ⟨[], rfl⟩

/-- Rules ask the executor for their due actions, in order. -/
theorem applyRules_recorded (steady : executor.LeavesReads access) (first : Nat)
    (rules : List Rule) (calls : List Call) (state : S) :
    applyRules signal (access ∘ Prod.snd) executor.recorded first rules (calls, state) =
      let run := applyRules signal access executor first rules state
      let due := DueAction.ofRules signal (access state) first rules
      ⟨run.value, run.reads, run.log,
        (calls ++ executor.calls (due.map DueAction.action) state, run.state)⟩ := by
  induction rules generalizing first calls state with
  | nil => simp [applyRules, DueAction.ofRules, numbered]
  | cons rule rest ih =>
    rw [applyRules_cons, applyRules_cons, Rule.apply_recorded]
    simp only [ih]
    rw [Rule.apply_state, DueAction.ofRules_congr (steady.after _ state), DueAction.ofRules_cons,
      List.map_append, DueAction.map_action_ofRule, Executor.calls_append, List.append_assoc]

/-- Rules leave the state that carrying out their due actions leaves. -/
theorem applyRules_state (steady : executor.LeavesReads access) (first : Nat) (rules : List Rule)
    (state : S) :
    (applyRules signal access executor first rules state).state =
      executor.after ((DueAction.ofRules signal (access state) first rules).map DueAction.action)
        state := by
  induction rules generalizing first state with
  | nil => rfl
  | cons rule rest ih =>
    have later := ih (first + 1) (rule.apply signal access executor state).state
    rw [Rule.apply_state, DueAction.ofRules_congr (steady.after _ state)] at later
    simp only [applyRules_cons, Rule.apply_state, later, DueAction.ofRules_cons, List.map_append,
      DueAction.map_action_ofRule, Executor.after_append]

/-- What rules come to, by the calls of their due actions. -/
theorem applyRules_value (steady : executor.LeavesReads access) (first : Nat)
    (rules : List Rule) (state : S) :
    (applyRules signal access executor first rules state).value =
      let due := DueAction.ofRules signal (access state) first rules
      let calls := executor.calls (due.map DueAction.action) state
      ⟨rules.countP (·.firesOn signal),
        (numbered first rules).filterMap
          (FailedRule.of? signal (access state) (due.zip calls))⟩ := by
  induction rules generalizing first state with
  | nil => rfl
  | cons rule rest ih =>
    -- The rules behind read what the first one would read, whatever that one did to the state.
    have later := ih (first + 1) (rule.apply signal access executor state).state
    rw [Rule.apply_state, DueAction.ofRules_congr (steady.after _ state),
      FailedRule.of?_congr (steady.after _ state)] at later
    have length : (executor.calls (rule.dueActions signal (access state)) state).length =
        (rule.dueActions signal (access state)).length := executor.length_calls _ _
    have dueLength : (DueAction.ofRule first 0 (rule.dueActions signal (access state))).length =
        (executor.calls (rule.dueActions signal (access state)) state).length := by
      rw [length, ← List.length_map DueAction.action, DueAction.map_action_ofRule]
    have reported := FailedRule.filterMap_of?_cons signal (access state) first rule rest
      (executor.calls ((DueAction.ofRules signal (access state) (first + 1) rest).map
        DueAction.action) (executor.after (rule.dueActions signal (access state)) state)) length
    simp only [applyRules_cons, Rule.apply_state, Rule.apply_value, later, DueAction.ofRules_cons,
      List.map_append, DueAction.map_action_ofRule, Executor.calls_append,
      List.zip_append dueLength, reported, List.countP_cons]
    cases rule.fault? signal (access state)
      (Call.refused 0 (executor.calls (rule.dueActions signal (access state)) state)) <;> rfl

/-- The due actions of all rules, on a signal that the host emits. -/
def dueActions (base : RuleBase) (signal : String) (access : Access) : List DueAction :=
  if base.signals.contains signal then DueAction.ofRules signal access 0 base.rules else []

theorem apply_state (base : RuleBase) (steady : executor.LeavesReads access) (state : S) :
    (base.apply signal access executor state).state =
      executor.after ((base.dueActions signal (access state)).map DueAction.action) state := by
  unfold apply dueActions
  split
  · exact applyRules_state steady 0 base.rules state
  · rfl

/-- On a signal the executor is asked for all actions of exactly the rules that fire on it and
whose condition holds: in load order, each once, whatever fails on the way.  The report counts the
rules that fire, and it lists in ascending order the rules whose condition has no truth value and
those with actions that were refused.  On any other signal nothing is asked for, read or reported.
Recording the calls disturbs nothing. -/
theorem apply_calls_due_actions (base : RuleBase) (signal : String) (state : S)
    (steady : executor.LeavesReads access) :
    let run := base.apply signal access executor state
    let watched := base.apply signal (access ∘ Prod.snd) executor.recorded ([], state)
    let calls := watched.state.1
    let due := base.dueActions signal (access state)
    watched = ⟨run.value, run.reads, run.log, (calls, run.state)⟩ ∧
    (calls.map Call.action = due.map DueAction.action ∧ due.Pairwise DueAction.Before) ∧
    (base.signals.contains signal = false →
      calls = [] ∧ run.reads = [] ∧ run.value = ⟨0, []⟩) ∧
    (base.signals.contains signal = true →
      run.value.fired = base.rules.countP (·.firesOn signal) ∧
      run.value.failures = (numbered 0 base.rules).filterMap
        (FailedRule.of? signal (access state) (due.zip calls)) ∧
      run.value.failures.Pairwise (fun failure other => failure.index < other.index) ∧
      ∀ failure ∈ run.value.failures, ∀ failed, failure.fault = .actions failed →
        failed.Pairwise fun action other => action.index < other.index) := by
  intro run watched calls due
  cases known : base.signals.contains signal with
  | false =>
    have passed : run = ⟨⟨0, []⟩, [], [.unknownSignal signal], state⟩ := by
      simp only [run, apply, known, Bool.false_eq_true, ↓reduceIte]
    have passedWatched : watched = ⟨⟨0, []⟩, [], [.unknownSignal signal], ([], state)⟩ := by
      simp only [watched, apply, known, Bool.false_eq_true, ↓reduceIte]
    have noneDue : due = [] := by
      simp only [due, dueActions, known, Bool.false_eq_true, ↓reduceIte]
    have noCalls : calls = [] := by rw [show calls = watched.state.1 from rfl, passedWatched]
    refine ⟨?_, ?_, fun _ => ⟨noCalls, ?_, ?_⟩, fun no => absurd no Bool.false_ne_true⟩
    · rw [passedWatched, passed, noCalls]
    · rw [noCalls, noneDue]
      exact ⟨rfl, .nil⟩
    · rw [passed]
    · rw [passed]
  | true =>
    have applied : run = applyRules signal access executor 0 base.rules state := by
      simp only [run, apply, known, ↓reduceIte]
    have dueHere : due = DueAction.ofRules signal (access state) 0 base.rules := by
      simp only [due, dueActions, known, ↓reduceIte]
    have appliedWatched : watched = ⟨run.value, run.reads, run.log,
        (executor.calls (due.map DueAction.action) state, run.state)⟩ := by
      simp only [watched, apply, known, ↓reduceIte, applyRules_recorded steady, List.nil_append,
        applied, dueHere]
    have made : calls = executor.calls (due.map DueAction.action) state := by
      rw [show calls = watched.state.1 from rfl, appliedWatched]
    have reported : run.value = ⟨base.rules.countP (·.firesOn signal),
        (numbered 0 base.rules).filterMap
          (FailedRule.of? signal (access state) (due.zip calls))⟩ := by
      rw [applied, applyRules_value steady, made, dueHere]
    have inOrder : due.Pairwise DueAction.Before := dueHere ▸ DueAction.pairwise_ofRules 0 _
    have firsts : (due.zip calls).map Prod.fst = due := by
      refine List.map_fst_zip (Nat.le_of_eq ?_)
      rw [made, Executor.length_calls, List.length_map]
    refine ⟨made ▸ appliedWatched, ⟨?_, inOrder⟩, fun no => absurd no.symm Bool.false_ne_true,
      fun _ => ⟨?_, ?_, ?_, ?_⟩⟩
    · rw [made, Executor.map_action_calls]
    · rw [reported]
    · rw [reported]
    · rw [reported]
      exact FailedRule.pairwise_filterMap_of? 0 base.rules
    · intro failure member failed isActions
      rw [reported] at member
      obtain ⟨placed, -, isFailure⟩ := List.mem_filterMap.mp member
      rw [FailedRule.actions_of_of? isFailure isActions]
      exact pairwise_failedActionsOf placed.1 (firsts.symm ▸ inOrder)

/-- A refused action, a condition without a truth value and one that does not hold are met on the
way; the actions behind them are called. -/
theorem due_actions_are_called_among_faults :
    let table := PropertyTable.empty.set "title" (.string "notes")
    let titled (title : String) : Condition := .compare "title" .equal (.string title)
    let base : RuleBase := ⟨.standard, [
      ⟨⟨"created", some (titled "notes")⟩, [⟨"fly", []⟩, ⟨"snap", [.string "left"]⟩]⟩,
      ⟨⟨"created", some (.compare "colour" .equal (.bool true))⟩, [⟨"maximize", []⟩]⟩,
      ⟨⟨"maximized", none⟩, [⟨"maximize", []⟩]⟩,
      ⟨⟨"created", some (titled "mail")⟩, [⟨"maximize", []⟩]⟩,
      ⟨⟨"created", none⟩, [⟨"minimize", []⟩, ⟨"fly", []⟩]⟩]⟩
    let executor := Recorder.execute ["fly"]
    let access : Recorder → Access := fun _ => table.access
    let run := base.apply "created" access executor ⟨[]⟩
    let watched := base.apply "created" (access ∘ Prod.snd) executor.recorded ([], ⟨[]⟩)
    executor.LeavesReads access ∧
    watched.state.1.map Call.action =
      [⟨"fly", []⟩, ⟨"snap", [.string "left"]⟩, ⟨"minimize", []⟩, ⟨"fly", []⟩] ∧
    run.value.fired = 4 ∧
    run.value.failures = [⟨0, .actions [⟨0, "fly", .unknownAction "fly"⟩]⟩,
      ⟨1, .condition (.read (.unknownProperty "colour"))⟩,
      ⟨4, .actions [⟨1, "fly", .unknownAction "fly"⟩]⟩] := by
  intro table titled base executor access run watched
  have steady : executor.LeavesReads access := fun _ _ _ _ => rfl
  obtain ⟨-, ⟨called, -⟩, -, onKnown⟩ := apply_calls_due_actions base "created" ⟨[]⟩ steady
  obtain ⟨fired, failures, -⟩ := onKnown (by decide +kernel)
  exact ⟨steady, called.trans rfl, fired.trans (by decide +kernel),
    failures.trans (by decide +kernel)⟩

end RuleBase

end ActiveRules
