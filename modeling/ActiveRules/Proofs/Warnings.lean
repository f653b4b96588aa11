import ActiveRules.Proofs.Loading
import Mathlib.Data.List.Perm.Basic

/-!
# What warnings tell

Everything that a report lists was also told as a warning, when it happened, and nothing else was.
So a host may rely on its log or on the reports, whichever suits it.

## Main definitions

* `Warning`, `Event.warnings`: warnings as a host sees them, and those of a log.
* `RuleFault.warnings`: what is told of a rule that was not applied cleanly.
* `Reception`: what comes of a text that is loaded, and what is told of it.
* `Loading.TellsOf`: a loading that reports and tells the same of every text.

## Main statements

* `Rule.warnings_apply`, `RuleBase.warnings_applyRules`: the warnings of one rule and of rules in
  order.
* `RuleBase.warnings_loadIndexed`: the warnings of texts in order.
* `RuleBase.neverFires_iff`: which rules never fire.
* `RuleBase.warnings_tell_what_is_reported`: all this for rule bases, lists of texts and lines.
-/

namespace ActiveRules

variable {S : Type}

/-! ## Warnings -/

deriving instance DecidableEq for Datum

/-- A warning as a host sees it. -/
structure Warning where
  message : String
  fields : List (String × Datum)
deriving DecidableEq

/-- The warning that an event is, unless it only gives a detail. -/
def Event.warning? (event : Event) : Option Warning :=
  match event.severity with
  | .warning => some ⟨event.message, event.fields⟩
  | .detail => none

/-- The warnings of a log, in order. -/
def Event.warnings (log : List Event) : List Warning := log.filterMap warning?

@[simp]
theorem Event.warnings_append (front back : List Event) :
    warnings (front ++ back) = warnings front ++ warnings back :=
  List.filterMap_append ..

/-- Reading any property gives rise to no warning. -/
def Access.Silent (access : Access) : Prop :=
  ∀ property, Event.warnings (access.events property) = []

/-- Carrying out any action gives rise to no warning. -/
def Executor.Silent (executor : Executor S) : Prop :=
  ∀ name arguments state, Event.warnings (executor name arguments state).log = []

/-- What is told of an action that failed, in a rule with this trigger. -/
def FailedAction.warning (trigger : String) (failed : FailedAction) : Warning :=
  ⟨"rule action failed", [("trigger", .text trigger), ("action", .text failed.name),
    ("index", .count failed.index), ("error", .text failed.fault.message)]⟩

/-- What is told of a rule with this trigger that was not applied cleanly. -/
def RuleFault.warnings (trigger : String) : RuleFault → List Warning
  | condition fault =>
    [⟨"rule condition could not be evaluated",
      [("trigger", .text trigger), ("error", .text fault.message)]⟩]
  | actions failed => failed.map (FailedAction.warning trigger)

/-! ## Applying rules -/

theorem Access.Silent.warnings_log {access : Access} (silent : access.Silent)
    (evaluation : Evaluation) : Event.warnings (evaluation.log access) = [] := by
  rw [Event.warnings, Evaluation.log, List.filterMap_flatMap]
  exact List.flatMap_eq_nil_iff.mpr fun property _ => silent property

namespace Rule

variable {access : S → Access} {executor : Executor S}

/-- One warning for every action that fails. -/
theorem warnings_runActions (quiet : executor.Silent) (trigger : String) (index : Nat)
    (actions : List Action) (state : S) :
    let run := runActions executor trigger index actions state
    Event.warnings run.log = run.value.map (FailedAction.warning trigger) := by
  induction actions generalizing index state with
  | nil => rfl
  | cons action rest ih =>
    have here := quiet action.name action.arguments state
    have later := ih (index + 1) (executor action.name action.arguments state).state
    dsimp only at later
    simp only [runActions_cons, Event.warnings_append, here, later, List.nil_append,
      List.map_append]
    cases (Call.mk action (executor action.name action.arguments state).result).failed? index <;>
      rfl

/-- Only a rule that fires has a fault. -/
theorem trigger_eq_of_apply {rule : Rule} {signal : String} {state : S} {fault : RuleFault}
    (failed : (rule.apply signal access executor state).value = .error fault) :
    rule.trigger = signal := by
  by_contra other
  have passed : rule.firesOn signal = false := beq_false_of_ne other
  simp [apply, passed] at failed

/-- Warnings for the fault that the application of a rule comes to, if it comes to one. -/
theorem warnings_apply (silent : ∀ state, (access state).Silent) (quiet : executor.Silent)
    (rule : Rule) (signal : String) (state : S) :
    let run := rule.apply signal access executor state
    Event.warnings run.log = match run.value with
      | .ok () => []
      | .error fault => fault.warnings rule.trigger := by
  have ofCondition := (silent state).warnings_log
    (Condition.evaluateOptional (access state) rule.condition)
  have ofActions := warnings_runActions quiet rule.trigger 0 rule.actions state
  dsimp only at ofActions
  unfold apply
  cases rule.firesOn signal with
  | false => rfl
  | true =>
    simp only [↓reduceIte]
    cases (Condition.evaluateOptional (access state) rule.condition).result with
    | error fault =>
      simp only [Event.warnings_append, ofCondition]
      rfl
    | ok holds =>
      cases holds with
      | false => exact ofCondition
      | true =>
        simp only [Event.warnings_append, ofCondition, ofActions, List.nil_append]
        cases (runActions executor rule.trigger 0 rule.actions state).value <;> rfl

end Rule

namespace RuleBase

variable {access : S → Access} {executor : Executor S} {signal : String}

/-- What is reported of rules tells where they stand, and they fire on the signal. -/
theorem exists_of_mem_failures {first : Nat} {rules : List Rule} {state : S} {failure : FailedRule}
    (reported : failure ∈ (applyRules signal access executor first rules state).value.failures) :
    ∃ rule, (failure.index, rule) ∈ numbered first rules ∧ rule.trigger = signal := by
  induction rules generalizing first state with
  | nil => cases reported
  | cons rule rest ih =>
    have behind : failure ∈ (applyRules signal access executor (first + 1) rest
        (rule.apply signal access executor state).state).value.failures →
        ∃ other, (failure.index, other) ∈ numbered first (rule :: rest) ∧
          other.trigger = signal := fun later =>
      have ⟨other, member, fires⟩ := ih later
      ⟨other, List.mem_cons_of_mem _ member, fires⟩
    rw [applyRules_cons] at reported
    cases outcome : (rule.apply signal access executor state).value with
    | ok _ =>
      simp only [outcome] at reported
      exact behind reported
    | error fault =>
      simp only [outcome] at reported
      rcases List.mem_cons.mp reported with rfl | later
      · exact ⟨rule, List.mem_cons_self, Rule.trigger_eq_of_apply outcome⟩
      · exact behind later

/-- The warnings of rules in order are those for their faults. -/
theorem warnings_applyRules (silent : ∀ state, (access state).Silent) (quiet : executor.Silent)
    (signal : String) (first : Nat) (rules : List Rule) (state : S) :
    let run := applyRules signal access executor first rules state
    Event.warnings run.log =
      run.value.failures.flatMap fun failure => failure.fault.warnings signal := by
  -- Every rule with a fault fires on the signal, so its place is not needed to tell its trigger.
  induction rules generalizing first state with
  | nil => rfl
  | cons rule rest ih =>
    have here := Rule.warnings_apply silent quiet rule signal state
    have later := ih (first + 1) (rule.apply signal access executor state).state
    dsimp only at here later
    simp only [applyRules_cons, Event.warnings_append, here, later]
    cases outcome : (rule.apply signal access executor state).value with
    | ok _ => rfl
    | error fault => rw [Rule.trigger_eq_of_apply outcome, List.flatMap_cons]

/-- The warnings of a rule base are those for the faults that it reports, each with the trigger of
its rule. -/
theorem warnings_apply (silent : ∀ state, (access state).Silent) (quiet : executor.Silent)
    (base : RuleBase) (signal : String) (state : S) :
    let run := base.apply signal access executor state
    Event.warnings run.log = run.value.failures.flatMap fun failure =>
      (base.rules[failure.index]?).toList.flatMap fun rule =>
        failure.fault.warnings rule.trigger := by
  unfold apply
  split
  · have told := warnings_applyRules silent quiet signal 0 base.rules state
    dsimp only at told ⊢
    rw [told]
    refine List.flatMap_congr fun failure reported => ?_
    obtain ⟨rule, place, fires⟩ := exists_of_mem_failures reported
    rw [mem_numbered_zero.mp place, ← fires]
    simp
  · rfl

/-! ## Firing -/

/-- How many rules a rule base fires, whatever becomes of them. -/
theorem fired_applyRules (first : Nat) (rules : List Rule) (state : S) :
    (applyRules signal access executor first rules state).value.fired =
      rules.countP (·.firesOn signal) := by
  induction rules generalizing first state with
  | nil => rfl
  | cons rule rest ih => simp only [applyRules_cons, ih, List.countP_cons]

/-- The rule base without the rule at a place. -/
def without (base : RuleBase) (place : Nat) : RuleBase :=
  ⟨base.signals, base.rules.eraseIdx place⟩

/-- No application of the rule base fires the rule at a place: without it just as many fire. -/
def NeverFires (base : RuleBase) (place : Nat) : Prop :=
  ∀ (S : Type) (signal : String) (access : S → Access) (executor : Executor S) (state : S),
    (base.apply signal access executor state).value.fired =
      ((base.without place).apply signal access executor state).value.fired

/-- On a signal that the host emits, a rule is fired if that is its trigger. -/
theorem fired_eq_fired_without (base : RuleBase) {place : Nat} {rule : Rule}
    (isThere : base.rules[place]? = some rule) (signal : String) (access : S → Access)
    (executor : Executor S) (state : S) :
    (base.apply signal access executor state).value.fired =
      ((base.without place).apply signal access executor state).value.fired +
        if base.signals.contains signal && rule.firesOn signal then 1 else 0 := by
  obtain ⟨inside, isRule⟩ := List.getElem?_eq_some_iff.mp isThere
  have count := (List.getElem_cons_eraseIdx_perm inside).countP_eq (·.firesOn signal)
  rw [isRule, List.countP_cons] at count
  unfold apply without
  cases known : base.signals.contains signal with
  | false => simp
  | true => simp [fired_applyRules, count]

/-- Exactly the rules whose trigger the host does not emit never fire. -/
theorem neverFires_iff {base : RuleBase} {place : Nat} {rule : Rule}
    (isThere : base.rules[place]? = some rule) :
    base.NeverFires place ↔ base.signals.contains rule.trigger = false := by
  constructor
  · intro never
    have onTrigger := base.fired_eq_fired_without isThere rule.trigger (fun _ : Unit => .unbound)
      .unbound ()
    rw [never Unit rule.trigger] at onTrigger
    simpa [Header.firesOn] using onTrigger
  · intro deaf S signal access executor state
    rw [base.fired_eq_fired_without isThere signal access executor state]
    by_cases fires : rule.trigger = signal
    · simp [← fires, deaf]
    · simp [Header.firesOn, fires]

end RuleBase

/-! ## Loading texts -/

/-- What comes of a text that is loaded: a rule, or a text that is dropped. -/
inductive Reception where
  | loaded (rule : Rule)
  | dropped (text : DroppedText)

namespace Reception

/-- What comes of a text that is loaded under an index. -/
def of (placed : Nat × String) : Reception :=
  match Rule.parse placed.2 with
  | .ok rule => .loaded rule
  | .error diagnostic => .dropped ⟨placed.1, placed.2, diagnostic⟩

/-- The rule, if it is one. -/
def rule? : Reception → Option Rule
  | loaded rule => some rule
  | dropped _ => none

/-- The dropped text, if it is one. -/
def droppedText? : Reception → Option DroppedText
  | loaded _ => none
  | dropped text => some text

/-- What is told of a rule that never fires. -/
def deafWarning (trigger : String) : Warning :=
  ⟨"rule names an unrecognized trigger and will never fire", [("trigger", .text trigger)]⟩

/-- What is told of a text that was loaded where these signals are known. -/
def warnings (signals : SignalSet) : Reception → List Warning
  | loaded rule => if signals.contains rule.trigger then [] else [deafWarning rule.trigger]
  | dropped text =>
    [⟨"dropping rule that failed to parse",
      [("index", .count text.index), ("error", .text text.diagnostic.message)]⟩]

end Reception

/-- A loading of texts under indices that reports and tells the same of every text, in the order of
the texts. -/
structure Loading.TellsOf (loading : Loading) (base : RuleBase) (placed : List (Nat × String)) :
    Prop where
  /-- One entry in the report for every text that is no rule. -/
  dropped : loading.dropped = (placed.map Reception.of).filterMap Reception.droppedText?
  /-- One rule for every other text. -/
  rules : loading.base.rules = base.rules ++ (placed.map Reception.of).filterMap Reception.rule?
  /-- One warning for every dropped text and for every rule with an unknown trigger. -/
  warnings : Event.warnings loading.log =
    (placed.map Reception.of).flatMap (Reception.warnings base.signals)
  /-- The rules that were warned of are those that never fire, whatever rules follow them. -/
  deaf : ∀ place rule more, loading.base.rules[base.rules.length + place]? = some rule →
    (Reception.deafWarning rule.trigger ∈ Event.warnings loading.log ↔
      RuleBase.NeverFires ⟨loading.base.signals, loading.base.rules ++ more⟩
        (base.rules.length + place))

namespace RuleBase

variable (base : RuleBase) (placed : List (Nat × String))

theorem droppedText?_of (placed : Nat × String) :
    (Reception.of placed).droppedText? = DroppedText.of? placed := by
  unfold Reception.of DroppedText.of?
  cases Rule.parse placed.2 <;> rfl

theorem rule?_of (placed : Nat × String) :
    (Reception.of placed).rule? = (Rule.parse placed.2).toOption := by
  unfold Reception.of
  cases Rule.parse placed.2 <;> rfl

/-- One warning after the other, while the texts are loaded. -/
theorem warnings_loadIndexed :
    Event.warnings (base.loadIndexed placed).log =
      (placed.map Reception.of).flatMap (Reception.warnings base.signals) := by
  induction placed generalizing base with
  | nil => rfl
  | cons first rest ih =>
    obtain ⟨index, text⟩ := first
    rw [loadIndexed, List.map_cons, List.flatMap_cons, Reception.of]
    cases Rule.parse text with
    | error diagnostic => exact congrArg _ (ih base)
    | ok rule =>
      have here : Event.warnings (base.pushEvents rule) =
          (Reception.loaded rule).warnings base.signals := by
        rw [pushEvents, Reception.warnings]
        split <;> rfl
      simp only [Event.warnings_append, here, ih]
      rfl

/-- A rule that was loaded was warned of if its trigger is unknown, and only then. -/
theorem deafWarning_mem_iff {rule : Rule}
    (isLoaded : rule ∈ (placed.map Reception.of).filterMap Reception.rule?) :
    Reception.deafWarning rule.trigger ∈ Event.warnings (base.loadIndexed placed).log ↔
      base.signals.contains rule.trigger = false := by
  rw [warnings_loadIndexed, List.mem_flatMap]
  constructor
  · rintro ⟨reception, -, told⟩
    cases reception with
    | dropped text => simp [Reception.warnings, Reception.deafWarning] at told
    | loaded other =>
      rw [Reception.warnings] at told
      split at told
      · cases told
      · next deaf =>
        have same : rule.trigger = other.trigger := by
          simpa [Reception.deafWarning] using told
        rw [same]
        exact Bool.eq_false_iff.mpr deaf
  · intro deaf
    obtain ⟨reception, received, isRule⟩ := List.mem_filterMap.mp isLoaded
    refine ⟨reception, received, ?_⟩
    cases reception with
    | dropped text => cases isRule
    | loaded other =>
      cases isRule
      simp [Reception.warnings, deaf]

theorem rules_loadIndexed :
    (base.loadIndexed placed).base.rules =
      base.rules ++ (placed.map Reception.of).filterMap Reception.rule? := by
  rw [loadIndexed_base, List.filterMap_map, List.filterMap_map]
  exact congrArg _ (List.filterMap_congr fun text _ => (rule?_of text).symm)

theorem tellsOf_loadIndexed : (base.loadIndexed placed).TellsOf base placed where
  dropped := by
    rw [loadIndexed_dropped, List.filterMap_map]
    exact List.filterMap_congr fun text _ => (droppedText?_of text).symm
  rules := base.rules_loadIndexed placed
  warnings := base.warnings_loadIndexed placed
  deaf place rule more isThere := by
    have stillThere : ((base.loadIndexed placed).base.rules ++ more)[base.rules.length + place]? =
        some rule := by
      rw [List.getElem?_append_left (List.getElem?_eq_some_iff.mp isThere).1, isThere]
    rw [rules_loadIndexed, List.getElem?_append_right (Nat.le_add_right ..)] at isThere
    rw [deafWarning_mem_iff base placed (List.mem_of_getElem? isThere), neverFires_iff stillThere,
      loadIndexed_base]

/-- Warnings and reports tell the same.  While a rule base is applied, warnings are for the faults
that are reported, in the order of the report: one for a condition without a truth value, one for
each action that failed.  While texts are loaded, warnings are for the texts that are dropped and
for the rules that never fire.  This supposes that what is read and carried out does not warn by
itself. -/
theorem warnings_tell_what_is_reported (base : RuleBase) :
    (∀ (S : Type) (signal : String) (access : S → Access) (executor : Executor S) (state : S),
      (∀ state, (access state).Silent) → executor.Silent →
      let run := base.apply signal access executor state
      Event.warnings run.log = run.value.failures.flatMap fun failure =>
        (base.rules[failure.index]?).toList.flatMap fun rule =>
          failure.fault.warnings rule.trigger) ∧
    (∀ texts : List String, (base.load texts).TellsOf base (numbered 0 texts)) ∧
    ∀ text : String, (base.loadText text).TellsOf base (keptLines text) := by
  refine ⟨fun S signal access executor state silent quiet =>
    warnings_apply silent quiet base signal state, fun texts => ?_, fun text => ?_⟩
  · exact base.tellsOf_loadIndexed (numbered 0 texts)
  · rw [loadText, ruleLines_eq]
    exact base.tellsOf_loadIndexed (keptLines text)

/-- Two rules fail on a signal, one of them in two of its actions.  Of the lines of a text one is
no rule, and one is a rule that never fires. -/
theorem mixed_failures_are_told :
    let table := PropertyTable.empty.set "title" (.string "notes")
    let base : RuleBase := ⟨.standard, [
      ⟨⟨"created", some (.compare "colour" .equal (.bool true))⟩, [⟨"maximize", []⟩]⟩,
      ⟨⟨"maximized", none⟩, [⟨"fly", []⟩]⟩,
      ⟨⟨"created", none⟩, [⟨"fly", []⟩, ⟨"maximize", []⟩, ⟨"dive", [.int 1]⟩]⟩]⟩
    let access : Recorder → Access := fun _ => table.access
    let executor := Recorder.execute ["fly", "dive"]
    let text := "on created fly()\n\n  maximize()\non folded fly()\n"
    let noRule : Warning := ⟨"dropping rule that failed to parse", [("index", .count 2),
      ("error", .text "parse error at 1:1: expected `on`, found identifier `maximize`")]⟩
    (∀ state, (access state).Silent) ∧ executor.Silent ∧
    Event.warnings (base.apply "created" access executor ⟨[]⟩).log = [
      ⟨"rule condition could not be evaluated", [("trigger", .text "created"),
        ("error", .text "unknown identifier 'colour' for this subject")]⟩,
      ⟨"rule action failed", [("trigger", .text "created"), ("action", .text "fly"),
        ("index", .count 0), ("error", .text "unsupported action 'fly'")]⟩,
      ⟨"rule action failed", [("trigger", .text "created"), ("action", .text "dive"),
        ("index", .count 2), ("error", .text "unsupported action 'dive'")]⟩] ∧
    Event.warnings (base.loadText text).log = [noRule, Reception.deafWarning "folded"] ∧
    NeverFires ⟨(base.loadText text).base.signals, (base.loadText text).base.rules ++ base.rules⟩
      (base.rules.length + 1) := by
  intro table base access executor text noRule
  have silent : ∀ state, (access state).Silent := fun _ _ => rfl
  have quiet : executor.Silent := fun _ _ _ => rfl
  obtain ⟨applied, -, loaded⟩ := base.warnings_tell_what_is_reported
  have ofApplication := applied _ "created" access executor ⟨[]⟩ silent quiet
  have lines := loaded text
  have ofLines : Event.warnings (base.loadText text).log =
      [noRule, Reception.deafWarning "folded"] := lines.warnings.trans (by decide +kernel)
  have isFolded : ((base.loadText text).base.rules[base.rules.length + 1]?).map (·.trigger) =
      some "folded" := by
    decide +kernel
  obtain ⟨rule, isThere, folded⟩ := Option.map_eq_some_iff.mp isFolded
  have warned : Reception.deafWarning rule.trigger ∈ Event.warnings (base.loadText text).log := by
    rw [ofLines, folded]
    exact List.mem_cons_of_mem _ List.mem_cons_self
  have never := (lines.deaf 1 rule base.rules isThere).mp warned
  exact ⟨silent, quiet, ofApplication.trans (by decide +kernel), ofLines, never⟩

end RuleBase

end ActiveRules
