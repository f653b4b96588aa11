import ActiveRules.Condition
import ActiveRules.Subject

/-!
# Evaluating conditions

A condition is evaluated from left to right, and no further than its truth value needs.

## Main definitions

* `Evaluation`: a truth value, or the fault that prevents it, and the properties read on the way.
* `Condition.evaluate`: the evaluation of a condition.
* `Condition.evaluateOptional`: the same where a missing condition always holds.
-/

namespace ActiveRules

/-- A truth value, or why there is none, and the properties read to find out, in order. -/
structure Evaluation where
  result : Except ConditionFault Bool
  reads : List String

/-- The events that the reads of an evaluation gave rise to. -/
def Evaluation.log (evaluation : Evaluation) (access : Access) : List Event :=
  evaluation.reads.flatMap access.events

/-- Evaluation goes on with another one, whose result counts. -/
def Evaluation.andThen (first second : Evaluation) : Evaluation :=
  ⟨second.result, first.reads ++ second.reads⟩

/-- Whether a property compares with a literal. -/
def Access.compare (access : Access) (property : String) (comparison : Comparison)
    (value : Value) : Except ConditionFault Bool :=
  match access.read property with
  | .error fault => .error (.read fault)
  | .ok actual =>
    match actual.compare? comparison value with
    | some holds => .ok holds
    | none => .error (.incomparable property comparison actual.kindName value.kindName)

/-- The evaluation of a condition.  The right operand of a connective is evaluated only if the
left one leaves the truth value open; a fault ends the evaluation. -/
def Condition.evaluate (access : Access) : Condition → Evaluation
  | compare property comparison value => ⟨access.compare property comparison value, [property]⟩
  | and left right =>
    let first := left.evaluate access
    match first.result with
    | .ok true => first.andThen (right.evaluate access)
    | _ => first
  | or left right =>
    let first := left.evaluate access
    match first.result with
    | .ok false => first.andThen (right.evaluate access)
    | _ => first
  | not inner =>
    let evaluation := inner.evaluate access
    ⟨evaluation.result.map Bool.not, evaluation.reads⟩

/-- The evaluation of an optional condition; a missing one always holds. -/
def Condition.evaluateOptional (access : Access) : Option Condition → Evaluation
  | none => ⟨.ok true, []⟩
  | some condition => condition.evaluate access

end ActiveRules
