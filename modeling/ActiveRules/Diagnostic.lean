import ActiveRules.Token.Basic

/-!
# Diagnostics of rule text

A reader of rule text stops at the first token that cannot continue a rule.  Its diagnostic says
where that token stands, what it is, and which kinds of token could have stood there.

## Main definitions

* `Expectation`: a class of tokens that may come next.
* `Diagnostic`: why a text is not a rule.
* `Diagnostic.message`: the diagnostic in words.
-/

namespace ActiveRules

/-- A class of tokens that may come next.  Several classes hold the same tokens: their names say
what the token would be for. -/
inductive Expectation where
  | keyword (keyword : Keyword)
  | triggerName
  | property
  | action
  | comparison
  | literal
  | argument
  | leftParenthesis
  | rightParenthesis
  | comma
  | finish
deriving DecidableEq

namespace Expectation

/-- What a class of tokens is called in messages. -/
def name : Expectation → String
  | keyword k => "`" ++ k.name ++ "`"
  | triggerName => "trigger name"
  | property => "identifier"
  | action => "action"
  | comparison => "comparison operator"
  | literal => "literal"
  | argument => "literal"
  | leftParenthesis => "`(`"
  | rightParenthesis => "`)`"
  | comma => "`,`"
  | finish => "end of input"

end Expectation

/-- Why a text is not a rule. -/
inductive Diagnostic where
  | flawed (position : Position) (flaw : Flaw)
  | unexpected (position : Position) (found : Kind) (expected : List Expectation)

namespace Diagnostic

/-- The diagnostic for a token that cannot come next. -/
def ofToken (token : Token) (expected : List Expectation) : Diagnostic :=
  match token.kind with
  | .flaw flaw => flawed token.position flaw
  | found => unexpected token.position found expected

/-- Where the offending token stands. -/
def position : Diagnostic → Position
  | flawed position _ => position
  | unexpected position _ _ => position

/-- The diagnostic in words. -/
def message : Diagnostic → String
  | flawed position flaw => "lex error at " ++ position.text ++ ": " ++ flaw.message
  | unexpected position found expected =>
    "parse error at " ++ position.text ++ ": expected " ++
      " or ".intercalate (expected.map Expectation.name) ++ ", found " ++ found.description

end Diagnostic

end ActiveRules
