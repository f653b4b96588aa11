import ActiveRules.Condition.Evaluation
import ActiveRules.Rule

/-!
# Applying a rule

A rule fires on its trigger.  If its condition holds, every action is carried out in order,
whatever becomes of the earlier ones.

## Main definitions

* `Rule.runActions`: a list of actions carried out, with the failed ones among them.
* `Rule.apply`: a rule applied to a signal.
-/

namespace ActiveRules

variable {S : Type}

namespace Rule

/-- Carries out actions in order, the first of which has the given index in its rule.  Answers
the actions that failed. -/
def runActions (executor : Executor S) (trigger : String) :
    Nat → List Action → S → Run S (List FailedAction)
  | _, [], state => ⟨[], [], [], state⟩
  | index, action :: rest, state =>
    let execution := executor action.name action.arguments state
    let later := runActions executor trigger (index + 1) rest execution.state
    match execution.result with
    | .ok () => ⟨later.value, [], execution.log ++ later.log, later.state⟩
    | .error fault =>
      let failed : FailedAction := ⟨index, action.name, fault⟩
      ⟨failed :: later.value, [],
        execution.log ++ .actionFailed trigger failed :: later.log, later.state⟩

/-- Applies a rule to a signal.  The result is clean if the rule does not fire, if its condition
does not hold, and if all of its actions succeed.  The condition is read from the state in which
the application begins. -/
def apply (rule : Rule) (signal : String) (access : S → Access) (executor : Executor S)
    (state : S) : Run S (Except RuleFault Unit) :=
  if rule.firesOn signal then
    let evaluation := Condition.evaluateOptional (access state) rule.condition
    let log := evaluation.log (access state)
    match evaluation.result with
    | .error fault =>
      ⟨.error (.condition fault), evaluation.reads,
        log ++ [.conditionFailed rule.trigger fault], state⟩
    | .ok false => ⟨.ok (), evaluation.reads, log, state⟩
    | .ok true =>
      let actions := runActions executor rule.trigger 0 rule.actions state
      let result := if actions.value.isEmpty then .ok () else .error (.actions actions.value)
      ⟨result, evaluation.reads, log ++ actions.log, actions.state⟩
  else ⟨.ok (), [], [], state⟩

end Rule

end ActiveRules
