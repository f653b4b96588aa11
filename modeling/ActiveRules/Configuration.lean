import ActiveRules.RuleBase

/-!
# Configurations

A host is configured by the signals that it emits and by the texts of its rules.  Configurations
are stored as structured documents.

## Main definitions

* `Document`: a structured document.
* `Configuration.ofDocument?`: the configuration that a document holds.
* `Configuration.load`: the rule base of a configuration.
-/

namespace ActiveRules

/-- A structured document.  Configurations hold no numbers, so their values are left out. -/
inductive Document where
  | null
  | bool (value : Bool)
  | number
  | text (text : String)
  | list (items : List Document)
  | record (fields : List (String × Document))
deriving Inhabited

/-- The text of a document that is one. -/
def Document.text? : Document → Option String
  | text content => some content
  | _ => none

/-- The texts of a document that is a list of texts. -/
def Document.texts? : Document → Option (List String)
  | list items => items.mapM Document.text?
  | _ => none

/-- The names of the signals that a host emits, and the texts of its rules. -/
structure Configuration where
  triggers : List String
  rules : List String
deriving DecidableEq

namespace Configuration

/-- The configuration of a host that says nothing: the standard signals and no rules. -/
def standard : Configuration := ⟨SignalSet.standardNames, []⟩

/-- A list of texts that may be missing. -/
def textsOr (default : List String) : Option Document → Option (List String)
  | none => some default
  | some document => document.texts?

/-- The configuration that a document holds: a record with triggers and rules, or a list of the
two in this order.  What is missing is as in the standard configuration; other fields of a record
are passed over, other items of a list are not allowed. -/
def ofDocument? : Document → Option Configuration
  | .record fields => do
    let triggers ← textsOr standard.triggers (fields.lookup "triggers")
    let rules ← textsOr standard.rules (fields.lookup "rules")
    return ⟨triggers, rules⟩
  | .list items =>
    if items.length ≤ 2 then do
      let triggers ← textsOr standard.triggers items[0]?
      let rules ← textsOr standard.rules items[1]?
      return ⟨triggers, rules⟩
    else none
  | _ => none

/-- The configuration with one more rule text. -/
def addRule (configuration : Configuration) (text : String) : Configuration :=
  ⟨configuration.triggers, configuration.rules ++ [text]⟩

/-- The signals as a set. -/
def signals (configuration : Configuration) : SignalSet := .ofList configuration.triggers

/-- The rules of a configuration, loaded. -/
def load (configuration : Configuration) : Loading :=
  (RuleBase.empty configuration.signals).load configuration.rules

end Configuration

end ActiveRules
