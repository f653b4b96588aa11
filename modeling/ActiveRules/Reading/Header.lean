import ActiveRules.Reading.Condition
import ActiveRules.Rule

/-!
# Reading a header token by token

A header is the keyword `on`, the name of a trigger and, behind the keyword `if`, a condition.

## Main definitions

* `HeaderReading`: how far the reading of a header has come.
* `HeaderReading.next?`, `HeaderReading.header?`: one more token, and the header if it may end.
* `HeaderReading.expected`: the classes of tokens that can extend it.
-/

namespace ActiveRules

/-- How far the reading of a header has come. -/
inductive HeaderReading where
  /-- Nothing has been read. -/
  | start
  /-- `on` has been read. -/
  | trigger
  /-- The trigger has been read. -/
  | named (trigger : String)
  /-- `if` has been read. -/
  | guarded (trigger : String) (reading : ConditionReading)

namespace HeaderReading

/-- The reading extended by one token, unless no header goes on like that. -/
def next? : HeaderReading → Kind → Option HeaderReading
  | start, .keyword .on => some .trigger
  | trigger, .identifier name => some (.named name)
  | named name, .keyword .if => some (.guarded name .start)
  | guarded name reading, kind => (reading.next? kind).map (.guarded name)
  | _, _ => none

/-- The header that has been read, if it may end here. -/
def header? : HeaderReading → Option Header
  | named name => some ⟨name, none⟩
  | guarded name reading => reading.condition?.map fun condition => ⟨name, some condition⟩
  | _ => none

/-- The classes of tokens that extend the reading. -/
def expected : HeaderReading → List Expectation
  | start => [.keyword .on]
  | trigger => [.triggerName]
  | named _ => [.keyword .if]
  | guarded _ reading => reading.expected

end HeaderReading

end ActiveRules
