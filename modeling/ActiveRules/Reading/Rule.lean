import ActiveRules.Reading.Header

/-!
# Reading a rule token by token

Behind its header a rule has one action or more, each a name and, in parentheses, arguments with
commas between them.

## Main definitions

* `RuleReading`: how far the reading of a rule has come.
* `RuleReading.next?`, `RuleReading.rule?`: one more token, and the rule if it may end.
* `RuleReading.expected`: the classes of tokens that the diagnostic of a refused token names.
-/

namespace ActiveRules

/-- How far the reading of a rule has come.  `done` holds the actions read so far. -/
inductive RuleReading where
  /-- No action has begun. -/
  | header (reading : HeaderReading)
  /-- The name of an action has been read, and its parenthesis has to follow. -/
  | opening (header : Header) (done : List Action) (name : String)
  /-- The parenthesis has been read, and no argument yet. -/
  | firstArgument (header : Header) (done : List Action) (name : String)
  /-- A comma has been read, and an argument has to follow. -/
  | argument (header : Header) (done : List Action) (name : String) (arguments : List Value)
  /-- An argument has been read. -/
  | separator (header : Header) (done : List Action) (name : String) (arguments : List Value)
  /-- An action is complete. -/
  | actions (header : Header) (done : List Action)

namespace RuleReading

/-- The reading extended by one token, unless no rule goes on like that. -/
def next? : RuleReading → Kind → Option RuleReading
  | header reading, .identifier name =>
    match reading.header? with
    | some complete => some (.opening complete [] name)
    | none => (reading.next? (.identifier name)).map .header
  | header reading, kind => (reading.next? kind).map .header
  | opening head done name, .leftParenthesis => some (.firstArgument head done name)
  | firstArgument head done name, .rightParenthesis => some (.actions head (done ++ [⟨name, []⟩]))
  | firstArgument head done name, kind =>
    kind.argument?.map fun value => .separator head done name [value]
  | argument head done name arguments, kind =>
    kind.argument?.map fun value => .separator head done name (arguments ++ [value])
  | separator head done name arguments, .comma => some (.argument head done name arguments)
  | separator head done name arguments, .rightParenthesis =>
    some (.actions head (done ++ [⟨name, arguments⟩]))
  | actions head done, .identifier name => some (.opening head done name)
  | _, _ => none

/-- The rule that has been read, if it may end here. -/
def rule? : RuleReading → Option Rule
  | actions head done => some ⟨head, done⟩
  | _ => none

/-- The classes of tokens that the diagnostic of a refused token names.  Behind a comma they
include the closing parenthesis, although an argument has to follow. -/
def expected : RuleReading → List Expectation
  | header reading =>
    match reading.header? with
    | some _ => .action :: reading.expected
    | none => reading.expected
  | opening _ _ _ => [.leftParenthesis]
  | firstArgument _ _ _ => [.argument, .rightParenthesis]
  | argument _ _ _ _ => [.argument, .rightParenthesis]
  | separator _ _ _ _ => [.comma, .rightParenthesis]
  | actions _ _ => [.action, .finish]

end RuleReading

end ActiveRules
