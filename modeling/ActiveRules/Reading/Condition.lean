import ActiveRules.Diagnostic
import ActiveRules.Condition

/-!
# Reading a condition token by token

The reader of conditions is a deterministic automaton with a stack.  What it has understood so far
is a value, a reading, and each token either extends the reading or is refused.  `not` binds
tighter than `and`, which binds tighter than `or`; chains of one connective associate to the left.

## Main definitions

* `Pending`: what one level of parentheses still waits to be joined with.
* `ConditionReading`: how far the reading of a condition has come.
* `ConditionReading.next?`: the reading extended by one token.
* `ConditionReading.expected`: the classes of tokens that can extend it.
* `ConditionReading.condition?`: the condition, if the reading may end here.

## Design notes

No token is ever looked at twice, and a reading holds only what can still be completed to a
condition.  So the first token that `next?` refuses is the first one that no condition allows.
-/

namespace ActiveRules

/-- What waits within one level of parentheses for its next operand: the disjunction read so far,
the conjunction read after it, and the negations read last. -/
structure Pending where
  disjunction : Option Condition
  conjunction : Option Condition
  negations : Nat

namespace Pending

/-- Nothing waits. -/
def empty : Pending := ⟨none, none, 0⟩

/-- A condition under a number of negations. -/
def negate (condition : Condition) : Nat → Condition
  | 0 => condition
  | n + 1 => .not (negate condition n)

/-- The conjunction that an operand completes. -/
def conjoin (pending : Pending) (operand : Condition) : Condition :=
  match pending.conjunction with
  | none => negate operand pending.negations
  | some left => .and left (negate operand pending.negations)

/-- A disjunction read so far, with one more operand. -/
def disjoin (disjunction : Option Condition) (conjunction : Condition) : Condition :=
  match disjunction with
  | none => conjunction
  | some left => .or left conjunction

end Pending

/-- How far the reading of a condition has come.  `outer` holds what waits in the levels of
parentheses around the current one, the innermost first. -/
inductive ConditionReading where
  /-- An operand has to follow. -/
  | operand (outer : List Pending) (pending : Pending)
  /-- A property has been read, and its comparison has to follow. -/
  | comparison (outer : List Pending) (pending : Pending) (property : String)
  /-- The literal of a comparison has to follow. -/
  | literal (outer : List Pending) (pending : Pending) (property : String)
      (comparison : Comparison)
  /-- An operand is complete: `conjunction` is joined up to here. -/
  | joined (outer : List Pending) (disjunction : Option Condition) (conjunction : Condition)

namespace ConditionReading

/-- Nothing has been read. -/
def start : ConditionReading := .operand [] .empty

/-- The reading in which `operand` has just been completed. -/
def complete (outer : List Pending) (pending : Pending) (operand : Condition) :
    ConditionReading :=
  .joined outer pending.disjunction (pending.conjoin operand)

/-- The reading extended by one token, unless no condition goes on like that. -/
def next? : ConditionReading → Kind → Option ConditionReading
  | operand outer pending, .keyword .not =>
    some (.operand outer { pending with negations := pending.negations + 1 })
  | operand outer pending, .leftParenthesis => some (.operand (pending :: outer) .empty)
  | operand outer pending, .identifier property => some (.comparison outer pending property)
  | comparison outer pending property, .comparison relation =>
    some (.literal outer pending property relation)
  | literal outer pending property relation, kind =>
    kind.literal?.map fun value => complete outer pending (.compare property relation value)
  | joined outer disjunction conjunction, .keyword .and =>
    some (.operand outer ⟨disjunction, some conjunction, 0⟩)
  | joined outer disjunction conjunction, .keyword .or =>
    some (.operand outer ⟨some (Pending.disjoin disjunction conjunction), none, 0⟩)
  | joined (pending :: outer) disjunction conjunction, .rightParenthesis =>
    some (complete outer pending (Pending.disjoin disjunction conjunction))
  | _, _ => none

/-- The condition that has been read, if it may end here. -/
def condition? : ConditionReading → Option Condition
  | joined [] disjunction conjunction => some (Pending.disjoin disjunction conjunction)
  | _ => none

/-- The classes of tokens that extend the reading. -/
def expected : ConditionReading → List Expectation
  | operand _ _ => [.property, .keyword .not, .leftParenthesis]
  | comparison _ _ _ => [.comparison]
  | literal _ _ _ _ => [.literal]
  | joined [] _ _ => [.keyword .and, .keyword .or]
  | joined (_ :: _) _ _ => [.rightParenthesis, .keyword .and, .keyword .or]

end ConditionReading

end ActiveRules
