import ActiveRules.Registry.Basic
import ActiveRules.Text.Escaped

/-!
# Registrations shown for inspection

A registration can be shown in full, for people who look for a mistake.  The notation names every
field; of a callback it only tells whether there is one.

## Main definitions

* `Registration.inspection`: a registration as it is shown.
-/

namespace ActiveRules

namespace Inspection

/-- A truth value. -/
def bool (b : Bool) : String := if b then "true" else "false"

/-- An optional part. -/
def optional : Option String → String
  | none => "None"
  | some shown => "Some(" ++ shown ++ ")"

/-- A named part with fields.  `others` tells that there are fields that are not shown. -/
def record (name : String) (fields : List (String × String)) (others : Bool) : String :=
  let shown := fields.map fun field => field.1 ++ ": " ++ field.2
  name ++ " \x7b " ++ ", ".intercalate (shown ++ if others then [".."] else []) ++ " \x7d"

/-- The power of ten from which on a number is shown in scientific notation. -/
def scientificFrom : Int := 16

/-- The least power of ten at which a number is still shown in positional notation. -/
def positionalDownTo : Int := -4

/-- A number with a fraction: positional unless it is very large or very small. -/
def number {F : Format} : Binary F → String
  | .nan => "NaN"
  | .ordered negative rank =>
    let magnitude :=
      if rank.val < F.infinity then
        let shortest := Decimal.shortest F rank
        let exponent := shortest.leadingExponent
        if positionalDownTo ≤ exponent ∧ exponent < scientificFrom then shortest.positional
        else shortest.scientific
      else ['i', 'n', 'f']
    .ofList (if negative then '-' :: magnitude else magnitude)

/-- A value, with its kind. -/
def value : Value → String
  | .bool b => "Bool(" ++ bool b ++ ")"
  | .int i => "Int(" ++ .ofList (Numeral.signed i.toInt) ++ ")"
  | .single x => "Float(" ++ number x ++ ")"
  | .double x => "Double(" ++ number x ++ ")"
  | .string text => "String(" ++ Text.escaped text ++ ")"

/-- The name of a comparison. -/
def comparison : Comparison → String
  | .equal => "Eq"
  | .unequal => "Neq"
  | .contains => "Contains"
  | .greater => "Gt"
  | .atLeast => "Gte"
  | .less => "Lt"
  | .atMost => "Lte"

/-- A condition, as a tree. -/
def condition : Condition → String
  | .compare property relation literal =>
    record "Compare" [("identifier", Text.escaped property), ("op", comparison relation),
      ("value", value literal)] false
  | .and left right => "And(" ++ condition left ++ ", " ++ condition right ++ ")"
  | .or left right => "Or(" ++ condition left ++ ", " ++ condition right ++ ")"
  | .not inner => "Not(" ++ condition inner ++ ")"

/-- A header. -/
def header (shown : Header) : String :=
  record "RuleHeader" [("trigger", Text.escaped shown.trigger),
    ("condition", optional (shown.condition.map condition))] false

/-- A lambda rule.  It always has a callback for a condition that holds, which is not shown. -/
def lambdaRule {C : Type} (rule : LambdaRule C) : String :=
  record "LambdaRule" [("header", header rule.header),
    ("on_mismatch", bool rule.onMismatch.isSome)] true

end Inspection

/-- A registration as it is shown for inspection. -/
def Registration.inspection {C A : Type} (registration : Registration C A) : String :=
  Inspection.record "LambdaRuleRegistration" [("text", Text.escaped registration.text),
    ("on_match", Inspection.bool registration.onMatch.isSome),
    ("on_mismatch", Inspection.bool registration.onMismatch.isSome),
    ("access", Inspection.bool registration.access.isSome),
    ("rule", Inspection.optional (registration.rule.map Inspection.lambdaRule))] false

end ActiveRules
