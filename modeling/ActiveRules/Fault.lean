import ActiveRules.Value

/-!
# What can go wrong while rules are applied

A fault is a value that names its cause.  Faults never stop the application of other rules; they
are collected in reports.

## Main definitions

* `ReadFault`: a property could not be read.
* `ActionFault`: an action was rejected.
* `ConditionFault`: a condition could not be evaluated.
* `RuleFault`: a rule could not be applied, or some of its actions failed.
* `ReadFault.message` and its namesakes: a fault in words.
-/

namespace ActiveRules

/-- Why a property could not be read. -/
inductive ReadFault where
  | unknownProperty (property : String)
  | unsupportedValue (property : String) (value : String)
  | unbound
deriving DecidableEq

/-- The fault in words. -/
def ReadFault.message : ReadFault → String
  | unknownProperty property => "unknown identifier '" ++ property ++ "' for this subject"
  | unsupportedValue property value => "unsupported value for '" ++ property ++ "': " ++ value
  | unbound => "no subject bound"

/-- Why an action was rejected.  Positions of arguments count from zero. -/
inductive ActionFault where
  | unknownAction (name : String)
  | unknownSetting (setting : String)
  | argumentCount (action : String) (expected found : Nat)
  | argumentKind (action : String) (position : Nat) (expected found : String)
  | unknownSlot (name : String)
  | unsupportedState (action : String)
  | noContainer (action : String)
  | unbound
deriving DecidableEq

/-- The fault in words. -/
def ActionFault.message : ActionFault → String
  | unknownAction name => "unsupported action '" ++ name ++ "'"
  | unknownSetting setting => "unsupported property '" ++ setting ++ "' for set"
  | argumentCount action expected found =>
    "'" ++ action ++ "' expects " ++ Numeral.text expected ++ " argument(s), got " ++
      Numeral.text found
  | argumentKind action position expected found =>
    "'" ++ action ++ "' argument " ++ Numeral.text position ++ " must be " ++ expected ++
      ", got " ++ found
  | unknownSlot name => "invalid snap location '" ++ name ++ "'"
  | unsupportedState action => "subject does not support '" ++ action ++ "'"
  | noContainer action => "subject has no container for '" ++ action ++ "'"
  | unbound => "no subject bound"

/-- Why a condition has no truth value: a property could not be read, or its value does not
compare with the literal.  For the latter the kinds of the two sides are given. -/
inductive ConditionFault where
  | read (fault : ReadFault)
  | incomparable (property : String) (comparison : Comparison) (left right : String)
deriving DecidableEq

/-- The fault in words. -/
def ConditionFault.message : ConditionFault → String
  | read fault => fault.message
  | incomparable property comparison left right =>
    "cannot compare " ++ left ++ " " ++ comparison.symbol ++ " " ++ right ++ " for '" ++
      property ++ "'"

/-- An action of a rule that failed, with its place among the rule's actions. -/
structure FailedAction where
  index : Nat
  name : String
  fault : ActionFault
deriving DecidableEq

/-- The failed action in words. -/
def FailedAction.message (failed : FailedAction) : String :=
  "action #" ++ Numeral.text failed.index ++ " '" ++ failed.name ++ "': " ++ failed.fault.message

/-- Why the application of a rule was not clean. -/
inductive RuleFault where
  | condition (fault : ConditionFault)
  | actions (failed : List FailedAction)
deriving DecidableEq

/-- The fault in words. -/
def RuleFault.message : RuleFault → String
  | condition fault => "condition evaluation failed: " ++ fault.message
  | actions failed =>
    Numeral.text failed.length ++ " action(s) failed: " ++
      "; ".intercalate (failed.map FailedAction.message)

end ActiveRules
