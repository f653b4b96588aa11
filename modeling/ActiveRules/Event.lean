import ActiveRules.Diagnostic
import ActiveRules.Fault
import ActiveRules.View.Slot

/-!
# Events

While rules are loaded and applied the library tells its host what happens, as a sequence of
events.  An event has a severity, a fixed message and named fields.

## Main definitions

* `Outcome`: what came of applying a lambda rule, which events report.
* `RegistrationFault`: why a lambda rule was not registered, which events report too.
* `Event`: what the library has to tell.
* `Event.severity`, `Event.message`, `Event.fields`: how an event is presented.
-/

namespace ActiveRules

/-- What came of applying a lambda rule to a signal: it does not fire on it, its condition holds,
or its condition does not hold.  A callback that was run has a result. -/
inductive Outcome where
  | skipped
  | matched (result : Bool)
  | unmatched (result : Option Bool)
deriving DecidableEq

/-- The outcome as events show it. -/
def Outcome.text : Outcome → String
  | skipped => "Skipped"
  | matched result => "Matched(" ++ (if result then "true" else "false") ++ ")"
  | unmatched none => "Unmatched(None)"
  | unmatched (some result) => "Unmatched(Some(" ++ (if result then "true" else "false") ++ "))"

/-- Why a lambda rule was not registered. -/
inductive RegistrationFault where
  | duplicateKey (key : String)
  | missingCallback (key : String)
  | unreadable (key : String) (diagnostic : Diagnostic)

/-- The fault in words. -/
def RegistrationFault.message : RegistrationFault → String
  | duplicateKey key => "a lambda rule is already registered under '" ++ key ++ "'"
  | missingCallback key => "registration '" ++ key ++ "' has no if-callback"
  | unreadable key diagnostic =>
    "registration '" ++ key ++ "' failed to parse: " ++ diagnostic.message

/-- How much an event matters: a warning points at a mistake, a detail only helps to find one. -/
inductive Severity where
  | warning
  | detail
deriving DecidableEq

/-- What the library has to tell its host. -/
inductive Event where
  | ruleDropped (index : Nat) (diagnostic : Diagnostic)
  | deafRule (trigger : String)
  | unknownSignal (signal : String)
  | conditionFailed (trigger : String) (fault : ConditionFault)
  | actionFailed (trigger : String) (failed : FailedAction)
  | noSuchProperty (property : String)
  | opacitySet (opacity : Single)
  | snapRequested (slot : Slot)
  | callbackReturned (trigger : String) (outcome : Outcome)
  | lambdaRuleFailed (key : String) (fault : ConditionFault)
  | registrationRejected (key : String) (fault : RegistrationFault)
  | registryUnavailable

/-- The value of a field of an event. -/
inductive Datum where
  | text (text : String)
  | count (count : Nat)
  | number (number : Double)

namespace Event

/-- Mistakes in rules and in their registration are warnings. -/
def severity : Event → Severity
  | ruleDropped _ _ => .warning
  | deafRule _ => .warning
  | unknownSignal _ => .detail
  | conditionFailed _ _ => .warning
  | actionFailed _ _ => .warning
  | noSuchProperty _ => .detail
  | opacitySet _ => .detail
  | snapRequested _ => .detail
  | callbackReturned _ _ => .detail
  | lambdaRuleFailed _ _ => .warning
  | registrationRejected _ _ => .warning
  | registryUnavailable => .warning

/-- The message of an event, which depends on its kind alone. -/
def message : Event → String
  | ruleDropped _ _ => "dropping rule that failed to parse"
  | deafRule _ => "rule names an unrecognized trigger and will never fire"
  | unknownSignal _ => "signal is not a recognized trigger"
  | conditionFailed _ _ => "rule condition could not be evaluated"
  | actionFailed _ _ => "rule action failed"
  | noSuchProperty _ => "view has no such property"
  | opacitySet _ => "view alpha set"
  | snapRequested _ => "snap requested"
  | callbackReturned _ _ => "lambda rule callback returned"
  | lambdaRuleFailed _ _ => "lambda rule condition could not be evaluated"
  | registrationRejected _ _ => "lambda rule registration rejected"
  | registryUnavailable => "process-wide lambda rule registry is unavailable"

/-- What an event says about the case at hand. -/
def fields : Event → List (String × Datum)
  | ruleDropped index diagnostic => [("index", .count index), ("error", .text diagnostic.message)]
  | deafRule trigger => [("trigger", .text trigger)]
  | unknownSignal signal => [("signal", .text signal)]
  | conditionFailed trigger fault => [("trigger", .text trigger), ("error", .text fault.message)]
  | actionFailed trigger failed =>
    [("trigger", .text trigger), ("action", .text failed.name), ("index", .count failed.index),
      ("error", .text failed.fault.message)]
  | noSuchProperty property => [("identifier", .text property)]
  | opacitySet opacity => [("alpha", .number (opacity.convert .double))]
  | snapRequested slot => [("slot", .text slot.name)]
  | callbackReturned trigger outcome =>
    [("trigger", .text trigger), ("outcome", .text outcome.text)]
  | lambdaRuleFailed key fault => [("key", .text key), ("error", .text fault.message)]
  | registrationRejected key fault => [("key", .text key), ("error", .text fault.message)]
  | registryUnavailable => []

end Event

end ActiveRules
