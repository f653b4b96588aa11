import ActiveRules.Condition.Evaluation
import ActiveRules.Rule

/-!
# Lambda rules

A lambda rule has callbacks of the host in place of actions: one for subjects of which the
condition holds, and possibly another for those of which it does not.

## Main definitions

* `LambdaRule C`: a header with callbacks of the type `C`.
* `Caller`: how a host runs a callback on a state.
* `LambdaRule.apply`: a lambda rule applied to a signal.
-/

namespace ActiveRules

/-- A header, the callback for a condition that holds, and one for a condition that does not. -/
structure LambdaRule (C : Type) where
  header : Header
  onMatch : C
  onMismatch : Option C

/-- How a host runs a callback on a state: it answers a truth value.  The first argument tells
whether the callback is run because the condition holds or because it does not. -/
abbrev Caller (C S : Type) := Bool → C → S → Run S Bool

namespace LambdaRule

variable {C D S : Type}

/-- The rule with its callbacks replaced. -/
def map (f : C → D) (rule : LambdaRule C) : LambdaRule D :=
  ⟨rule.header, f rule.onMatch, rule.onMismatch.map f⟩

/-- Runs the callback that is due once the condition's truth value is known. -/
def callBack (rule : LambdaRule C) (call : Caller C S) (holds : Bool) (state : S) :
    Run S Outcome :=
  if holds then
    let run := call true rule.onMatch state
    ⟨.matched run.value, [], run.log, run.state⟩
  else
    match rule.onMismatch with
    | none => ⟨.unmatched none, [], [], state⟩
    | some callback =>
      let run := call false callback state
      ⟨.unmatched (some run.value), [], run.log, run.state⟩

/-- Applies a lambda rule to a signal.  No callback runs if the rule does not fire or its
condition cannot be evaluated.  The properties that a callback reads are its own affair. -/
def apply (rule : LambdaRule C) (call : Caller C S) (signal : String) (access : Access)
    (state : S) : Run S (Except ConditionFault Outcome) :=
  if rule.header.firesOn signal then
    let evaluation := Condition.evaluateOptional access rule.header.condition
    let log := evaluation.log access
    match evaluation.result with
    | .error fault => ⟨.error fault, evaluation.reads, log, state⟩
    | .ok holds =>
      let run := rule.callBack call holds state
      ⟨.ok run.value, evaluation.reads,
        log ++ run.log ++ [.callbackReturned rule.header.trigger run.value], run.state⟩
  else ⟨.ok .skipped, [], [], state⟩

end LambdaRule

end ActiveRules
