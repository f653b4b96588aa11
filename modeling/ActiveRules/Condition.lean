import ActiveRules.Value

/-!
# Conditions

A condition is a tree of comparisons between a property of the subject and a literal, joined by
`and`, `or` and `not`.

## Main definitions

* `Condition`: the tree.
* `Condition.spelling`: a condition as text, with parentheses around every pair, so that the text
  determines the tree.
-/

namespace ActiveRules

/-- What has to hold of the subject for a rule to act. -/
inductive Condition where
  | compare (property : String) (comparison : Comparison) (value : Value)
  | and (left right : Condition)
  | or (left right : Condition)
  | not (inner : Condition)
deriving BEq

namespace Condition

/-- A condition in the rule language, with parentheses around every pair. -/
def spelling : Condition → List Char
  | compare property comparison value =>
    property.toList ++ ' ' :: comparison.symbol.toList ++ ' ' :: value.spelling
  | and left right =>
    '(' :: left.spelling ++ [' ', 'a', 'n', 'd', ' '] ++ right.spelling ++ [')']
  | or left right =>
    '(' :: left.spelling ++ [' ', 'o', 'r', ' '] ++ right.spelling ++ [')']
  | not inner => ['n', 'o', 't', ' ', '('] ++ inner.spelling ++ [')']

/-- The text of a condition. -/
def text (condition : Condition) : String := String.ofList condition.spelling

end Condition

end ActiveRules
