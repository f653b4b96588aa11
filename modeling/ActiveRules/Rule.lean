import ActiveRules.Condition

/-!
# Rules

A rule says on which trigger it fires, under which condition it acts, and which actions it then
runs, in order.  A header is a rule without its actions.

## Main definitions

* `Action`: a name and its literal arguments.
* `Header`: a trigger and an optional condition.
* `Rule`: a header and actions.
* `Rule.spelling`: a rule as text.
-/

namespace ActiveRules

/-- A named action with its arguments.  Whether they fit the name is for the executor to say. -/
structure Action where
  name : String
  arguments : List Value
deriving BEq

/-- When a rule acts: on a trigger, and only while the condition, if there is one, holds. -/
structure Header where
  trigger : String
  condition : Option Condition
deriving BEq

/-- A header and the actions to run, in order. -/
structure Rule extends Header where
  actions : List Action
deriving BEq

/-- Does a header's trigger equal this signal? -/
def Header.firesOn (header : Header) (signal : String) : Bool := header.trigger == signal

/-- Arguments with a comma and a space between two of them. -/
def Action.argumentSpelling : List Value → List Char
  | [] => []
  | [value] => value.spelling
  | value :: next :: rest =>
    value.spelling ++ ',' :: ' ' :: argumentSpelling (next :: rest)

/-- An action in the rule language. -/
def Action.spelling (action : Action) : List Char :=
  action.name.toList ++ '(' :: argumentSpelling action.arguments ++ [')']

/-- A header in the rule language. -/
def Header.spelling (header : Header) : List Char :=
  ['o', 'n', ' '] ++ header.trigger.toList ++
    match header.condition with
    | none => []
    | some condition => [' ', 'i', 'f', ' '] ++ condition.spelling

/-- A rule in the rule language, on one line. -/
def Rule.spelling (rule : Rule) : List Char :=
  rule.toHeader.spelling ++ rule.actions.flatMap fun action => ' ' :: action.spelling

/-- The text of a rule. -/
def Rule.text (rule : Rule) : String := String.ofList rule.spelling

end ActiveRules
