import ActiveRules.Reading.Text
import ActiveRules.Rule.Application
import ActiveRules.SignalSet
import ActiveRules.Text.Blank

/-!
# Rule bases

A rule base keeps rules in the order in which they were loaded, together with the signals that
its host emits.

## Main definitions

* `RuleBase.push`: one more rule.
* `RuleBase.load`: the rules of a list of texts; texts that are no rule are dropped and reported.
* `RuleBase.loadText`: the rules of a text with one rule on a line.
* `RuleBase.ofFile`: the rule base of a file.
* `RuleBase.apply`: all rules applied to a signal, in order.
-/

namespace ActiveRules

/-- Rules in load order, and the signals on which they can fire. -/
structure RuleBase where
  signals : SignalSet
  rules : List Rule

/-- A text that is no rule, with its place in what was loaded. -/
structure DroppedText where
  index : Nat
  text : String
  diagnostic : Diagnostic

/-- What came of loading texts: the rule base, how many rules were added to it, the texts that
were dropped, and the events on the way. -/
structure Loading where
  base : RuleBase
  loaded : Nat
  dropped : List DroppedText
  log : List Event

/-- A rule that was not applied cleanly, with its place in the rule base. -/
structure FailedRule where
  index : Nat
  fault : RuleFault
deriving DecidableEq

/-- What came of applying a rule base: how many rules fired, and which of them failed. -/
structure FiringReport where
  fired : Nat
  failures : List FailedRule
deriving DecidableEq

/-- Did every rule that fired succeed? -/
def FiringReport.isClean (report : FiringReport) : Bool := report.failures.isEmpty

/-- Why a rule file could not be read. -/
inductive FileFault where
  | missing
  | notText
deriving DecidableEq

/-- The elements of a list, each with its index, counted from a first one. -/
def numbered {A : Type} (first : Nat) : List A → List (Nat × A)
  | [] => []
  | a :: rest => (first, a) :: numbered (first + 1) rest

namespace RuleBase

/-- A rule base without rules. -/
def empty (signals : SignalSet) : RuleBase := ⟨signals, []⟩

/-- A rule base without rules for the standard signals. -/
def standard : RuleBase := empty .standard

/-- The rule base with one more rule at its end. -/
def push (base : RuleBase) (rule : Rule) : RuleBase := ⟨base.signals, base.rules ++ [rule]⟩

/-- The events of adding a rule: a warning if it can never fire. -/
def pushEvents (base : RuleBase) (rule : Rule) : List Event :=
  if base.signals.contains rule.trigger then [] else [.deafRule rule.trigger]

/-- Loads texts in order, each under its index. -/
def loadIndexed : RuleBase → List (Nat × String) → Loading
  | base, [] => ⟨base, 0, [], []⟩
  | base, (index, text) :: rest =>
    match Rule.parse text with
    | .ok rule =>
      let later := loadIndexed (base.push rule) rest
      ⟨later.base, later.loaded + 1, later.dropped, base.pushEvents rule ++ later.log⟩
    | .error diagnostic =>
      let later := loadIndexed base rest
      ⟨later.base, later.loaded, ⟨index, text, diagnostic⟩ :: later.dropped,
        .ruleDropped index diagnostic :: later.log⟩

/-- Loads texts in order.  A text that is no rule is dropped; the others are not affected. -/
def load (base : RuleBase) (texts : List String) : Loading :=
  base.loadIndexed (numbered 0 texts)

/-- The lines of a text that hold a rule, without white space around it, each with its number.
Blank lines and lines that begin with `#` hold none. -/
def ruleLines (text : String) : List (Nat × String) :=
  (numbered 0 ((Text.lines text.toList).map Text.trim)).filterMap fun (index, line) =>
    if line.isEmpty || line.head? == some '#' then none else some (index, .ofList line)

/-- Loads the rules of a text with one rule on a line.  Indices are line numbers from zero. -/
def loadText (base : RuleBase) (text : String) : Loading :=
  base.loadIndexed (ruleLines text)

/-- The rules of a file with these bytes, for the standard signals; `none` stands for a file that
is not there. -/
def ofFile (content : Option ByteArray) : Except FileFault Loading :=
  match content with
  | none => .error .missing
  | some bytes =>
    match String.fromUTF8? bytes with
    | none => .error .notText
    | some text => .ok (standard.loadText text)

variable {S : Type}

/-- Applies rules in order, the first of which has the given index in its rule base.  A rule that
does not fire on the signal is passed over, and a fault never stops the rules behind it. -/
def applyRules (signal : String) (access : S → Access) (executor : Executor S) :
    Nat → List Rule → S → Run S FiringReport
  | _, [], state => ⟨⟨0, []⟩, [], [], state⟩
  | index, rule :: rest, state =>
    if rule.firesOn signal then
      let run := rule.apply signal access executor state
      let later := applyRules signal access executor (index + 1) rest run.state
      let failures := match run.value with
        | .ok () => later.value.failures
        | .error fault => ⟨index, fault⟩ :: later.value.failures
      ⟨⟨later.value.fired + 1, failures⟩, run.reads ++ later.reads, run.log ++ later.log,
        later.state⟩
    else applyRules signal access executor (index + 1) rest state

/-- Applies every rule to a signal, in load order.  A signal that the host does not emit fires
nothing. -/
def apply (base : RuleBase) (signal : String) (access : S → Access) (executor : Executor S)
    (state : S) : Run S FiringReport :=
  if base.signals.contains signal then
    applyRules signal access executor 0 base.rules state
  else ⟨⟨0, []⟩, [], [.unknownSignal signal], state⟩

end RuleBase

end ActiveRules
