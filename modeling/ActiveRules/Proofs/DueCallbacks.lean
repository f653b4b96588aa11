import ActiveRules.Proofs.Calls
import ActiveRules.Registry.Basic
import Mathlib.Data.List.Forall2

/-!
# Callbacks that are due

To apply the entries of a registry is to run, one after the other, the callbacks that a signal
calls for.  Each entry has its turn in the state that the callbacks before it leave, and is read in
that state.

## Main definitions

* `LambdaRule.due?`: the callback that a signal calls for, and whether the condition holds.
* `LambdaRule.Course`: the courses that the application of a lambda rule can take.
* `LambdaRule.verdict`: what comes of a lambda rule, given what callbacks answer.
* `LambdaRule.readsOn`: the properties that a lambda rule reads.
* `Turn`: an entry with the state in which it is applied.
* `Registry.turns`: the turns of the entries of a registry.
* `EntryReport.IsOf`: the report on an entry.

## Main statements

* `LambdaRule.apply_course`: all that applying a lambda rule can do.
* `LambdaRule.apply_congr`: what is not read of an access does not matter.
* `Registry.applyEntries_reports`: there is one report for each turn, in order.
* `Registry.applyEntries_congr`: only what is done and read at the turns matters.
* `Registry.applyEntries_keeps`: what callbacks keep is true at every turn.
-/

namespace ActiveRules

variable {C A S : Type} {signal : String}

namespace LambdaRule

/-- The callback that a signal calls for, and whether the condition holds.  There is none if the
rule does not fire, if the condition cannot be evaluated, or if it does not hold and there is no
callback for that. -/
def due? (rule : LambdaRule C) (signal : String) (access : Access) : Option (Bool × C) :=
  if rule.header.firesOn signal then
    match (Condition.evaluateOptional access rule.header.condition).result with
    | .error _ => none
    | .ok true => some (true, rule.onMatch)
    | .ok false => rule.onMismatch.map (Prod.mk false)
  else none

/-- What comes of a lambda rule, given what callbacks answer. -/
def verdict (rule : LambdaRule C) (signal : String) (access : Access)
    (answer : Bool → C → Bool) : Except ConditionFault Outcome :=
  if rule.header.firesOn signal then
    match (Condition.evaluateOptional access rule.header.condition).result with
    | .error fault => .error fault
    | .ok true => .ok (.matched (answer true rule.onMatch))
    | .ok false => .ok (.unmatched (rule.onMismatch.map (answer false)))
  else .ok .skipped

/-- The properties that the rule reads on a signal. -/
def readsOn (rule : LambdaRule C) (signal : String) (access : Access) : List String :=
  if rule.header.firesOn signal then (Condition.evaluateOptional access rule.header.condition).reads
  else []

/-- The courses that the application of a lambda rule can take, and what it comes to in each. -/
inductive Course (rule : LambdaRule C) (call : Caller C S) (signal : String) (access : Access)
    (state : S) : Run S (Except ConditionFault Outcome) → Prop where
  /-- The rule does not fire on the signal. -/
  | skipped (other : rule.header.trigger ≠ signal) :
      Course rule call signal access state ⟨.ok .skipped, [], [], state⟩
  /-- The condition has no truth value. -/
  | failed (fires : rule.header.trigger = signal) {fault : ConditionFault} {reads : List String}
      (evaluated : Condition.evaluateOptional access rule.header.condition =
        ⟨.error fault, reads⟩) :
      Course rule call signal access state
        ⟨.error fault, reads, reads.flatMap access.events, state⟩
  /-- The condition holds. -/
  | matched (fires : rule.header.trigger = signal) {reads : List String}
      (evaluated : Condition.evaluateOptional access rule.header.condition = ⟨.ok true, reads⟩)
      {run : Run S Bool} (called : call true rule.onMatch state = run) :
      Course rule call signal access state
        ⟨.ok (.matched run.value), reads, reads.flatMap access.events ++ run.log ++
          [.callbackReturned rule.header.trigger (.matched run.value)], run.state⟩
  /-- The condition does not hold, and there is no callback for that. -/
  | unanswered (fires : rule.header.trigger = signal) {reads : List String}
      (evaluated : Condition.evaluateOptional access rule.header.condition = ⟨.ok false, reads⟩)
      (silent : rule.onMismatch = none) :
      Course rule call signal access state
        ⟨.ok (.unmatched none), reads, reads.flatMap access.events ++
          [.callbackReturned rule.header.trigger (.unmatched none)], state⟩
  /-- The condition does not hold, and there is a callback for that. -/
  | unmatched (fires : rule.header.trigger = signal) {reads : List String}
      (evaluated : Condition.evaluateOptional access rule.header.condition = ⟨.ok false, reads⟩)
      {callback : C} (mismatch : rule.onMismatch = some callback)
      {run : Run S Bool} (called : call false callback state = run) :
      Course rule call signal access state
        ⟨.ok (.unmatched (some run.value)), reads, reads.flatMap access.events ++ run.log ++
          [.callbackReturned rule.header.trigger (.unmatched (some run.value))], run.state⟩

/-- Applying a lambda rule takes one of the courses. -/
theorem apply_course (rule : LambdaRule C) (call : Caller C S) (signal : String) (access : Access)
    (state : S) : rule.Course call signal access state (rule.apply call signal access state) := by
  unfold apply Header.firesOn
  by_cases fires : rule.header.trigger = signal
  · rw [if_pos (beq_iff_eq.mpr fires)]
    cases evaluated : Condition.evaluateOptional access rule.header.condition with
    | mk result reads =>
      cases result with
      | error fault => exact .failed fires evaluated
      | ok holds =>
        cases holds with
        | true => exact .matched fires evaluated rfl
        | false =>
          cases mismatch : rule.onMismatch with
          | none =>
            have course : rule.Course call signal access state _ :=
              .unanswered fires evaluated mismatch
            simpa [callBack, mismatch, Evaluation.log] using course
          | some callback =>
            have course : rule.Course call signal access state _ :=
              .unmatched fires evaluated mismatch rfl
            simpa [callBack, mismatch, Evaluation.log] using course
  · rw [if_neg (by simpa using fires)]
    exact .skipped fires

section Applying

variable {call : Caller C S} {access other : Access}

/-- Applying a lambda rule runs the callback that is due, and none otherwise. -/
theorem apply_state (rule : LambdaRule C) (state : S) :
    (rule.apply call signal access state).state =
      match rule.due? signal access with
      | none => state
      | some (holds, callback) => (call holds callback state).state := by
  have course := rule.apply_course call signal access state
  generalize rule.apply call signal access state = run at course ⊢
  cases course with
  | skipped other => simp [due?, Header.firesOn, other]
  | failed fires evaluated => simp [due?, Header.firesOn, fires, evaluated]
  | matched fires evaluated called => simp [due?, Header.firesOn, fires, evaluated, called]
  | unanswered fires evaluated silent => simp [due?, Header.firesOn, fires, evaluated, silent]
  | unmatched fires evaluated mismatch called =>
    simp [due?, Header.firesOn, fires, evaluated, mismatch, called]

/-- What a lambda rule comes to is decided by its header and by what the callback that is due
answers. -/
theorem apply_value (rule : LambdaRule C) (state : S) :
    (rule.apply call signal access state).value =
      rule.verdict signal access fun holds callback => (call holds callback state).value := by
  have course := rule.apply_course call signal access state
  generalize rule.apply call signal access state = run at course ⊢
  cases course with
  | skipped other => simp [verdict, Header.firesOn, other]
  | failed fires evaluated => simp [verdict, Header.firesOn, fires, evaluated]
  | matched fires evaluated called => simp [verdict, Header.firesOn, fires, evaluated, called]
  | unanswered fires evaluated silent => simp [verdict, Header.firesOn, fires, evaluated, silent]
  | unmatched fires evaluated mismatch called =>
    simp [verdict, Header.firesOn, fires, evaluated, mismatch, called]

theorem apply_reads (rule : LambdaRule C) (call : Caller C S) (state : S) :
    (rule.apply call signal access state).reads = rule.readsOn signal access := by
  have course := rule.apply_course call signal access state
  generalize rule.apply call signal access state = run at course ⊢
  cases course with
  | skipped other => simp [readsOn, Header.firesOn, other]
  | failed fires evaluated | matched fires evaluated _ | unanswered fires evaluated _
  | unmatched fires evaluated _ _ => simp [readsOn, Header.firesOn, fires, evaluated]

/-- Only what is read of an access matters, and only what callbacks do in the state at hand. -/
theorem apply_congr {rule : LambdaRule C} {otherCall : Caller C S} {state : S}
    (called : ∀ holds callback, otherCall holds callback state = call holds callback state)
    (alike : ∀ property ∈ rule.readsOn signal access,
      access.read property = other.read property ∧ access.events property = other.events property) :
    rule.apply otherCall signal other state = rule.apply call signal access state := by
  unfold readsOn at alike
  unfold apply
  split
  · next fires =>
    rw [if_pos fires] at alike
    have same : Condition.evaluateOptional other rule.header.condition =
        Condition.evaluateOptional access rule.header.condition := by
      cases guard : rule.header.condition with
      | none => rfl
      | some condition =>
        rw [guard] at alike
        exact (condition.evaluate_congr_of_reads fun property member =>
          (alike property member).1).symm
    rw [same]
    cases evaluated : Condition.evaluateOptional access rule.header.condition with
    | mk result reads =>
      rw [evaluated] at alike
      have sameEvents : reads.flatMap other.events = reads.flatMap access.events :=
        List.flatMap_congr fun property member => (alike property member).2.symm
      simp only [Evaluation.log, sameEvents, callBack, called]
  · rfl

end Applying

end LambdaRule

/-- A callback that is to be run for the entry under a key, because the condition of its rule
holds or because it does not. -/
structure DueCall (C : Type) where
  key : String
  holds : Bool
  callback : C

/-- A due callback is run under the key of its entry. -/
def DueCall.run (client : Client C A S) (due : DueCall C) (state : S) : Run S Bool :=
  client.call due.key due.holds due.callback state

/-- An entry whose turn it is, the state in which that is, and the access that the entry is read
through then. -/
structure Turn (C A S : Type) where
  key : String
  registration : Registration C A
  state : S
  access : Access

namespace Turn

/-- The turn of an entry in a state. -/
def of (client : Client C A S) (access : S → Access) (entry : String × Registration C A)
    (state : S) : Turn C A S :=
  ⟨entry.1, entry.2, state, entry.2.reader client access state⟩

/-- The entry whose turn it is. -/
def entry (turn : Turn C A S) : String × Registration C A := (turn.key, turn.registration)

/-- The callback that a signal calls for. -/
def due? (signal : String) (turn : Turn C A S) : Option (DueCall C) :=
  turn.registration.rule.bind fun rule =>
    (rule.due? signal turn.access).map fun (holds, callback) => ⟨turn.key, holds, callback⟩

/-- The properties that are read. -/
def reads (signal : String) (turn : Turn C A S) : List String :=
  match turn.registration.rule with
  | none => []
  | some rule => rule.readsOn signal turn.access

/-- The state that the callback leaves, if one is due. -/
def after (client : Client C A S) (signal : String) (turn : Turn C A S) : S :=
  match turn.due? signal with
  | none => turn.state
  | some due => (due.run client turn.state).state

/-- Another client runs callbacks in the same way when the turn comes, and what is read is the same
with it and another access. -/
structure IsAlike (client other : Client C A S) (signal : String) (access : S → Access)
    (turn : Turn C A S) : Prop where
  call (holds : Bool) (callback : C) :
    other.call turn.key holds callback turn.state = client.call turn.key holds callback turn.state
  reads : ∀ property ∈ turn.reads signal,
    let reader := turn.registration.reader other access turn.state
    turn.access.read property = reader.read property ∧
      turn.access.events property = reader.events property

end Turn

/-- The report has the key of the entry whose turn it is, and it says what came of its rule, by what
callbacks answer in that state. -/
structure EntryReport.IsOf (client : Client C A S) (signal : String) (turn : Turn C A S)
    (report : EntryReport) : Prop where
  key : report.key = turn.key
  result : ∃ rule, turn.registration.rule = some rule ∧
    report.result = rule.verdict signal turn.access fun holds callback =>
      (client.call turn.key holds callback turn.state).value

namespace Registry

/-- The turns of entries in order.  Each of them has its turn in the state that the callbacks
before it leave. -/
def turnsOf (client : Client C A S) (signal : String) (access : S → Access) :
    List (String × Registration C A) → S → List (Turn C A S)
  | [], _ => []
  | entry :: rest, state =>
    let turn := Turn.of client access entry state
    turn :: turnsOf client signal access rest (turn.after client signal)

/-- The turns of all entries, when the registry is applied to a signal. -/
def turns (registry : Registry C A) (client : Client C A S) (signal : String)
    (access : S → Access) (state : S) : List (Turn C A S) :=
  turnsOf client signal access registry.entries state

variable {client other : Client C A S} {access otherAccess : S → Access}
  {entries : List (String × Registration C A)}

theorem map_entry_turnsOf (entries : List (String × Registration C A)) (state : S) :
    (turnsOf client signal access entries state).map Turn.entry = entries := by
  induction entries generalizing state with
  | nil => rfl
  | cons entry rest ih => exact congrArg (entry :: ·) (ih _)

theorem access_of_mem_turnsOf {state : S} {turn : Turn C A S}
    (member : turn ∈ turnsOf client signal access entries state) :
    turn.access = turn.registration.reader client access turn.state := by
  induction entries generalizing state with
  | nil => exact absurd member List.not_mem_nil
  | cons entry rest ih =>
    rcases List.mem_cons.mp member with rfl | behind
    · rfl
    · exact ih behind

/-- The events of the entry under a key that came to an outcome. -/
def failureEvents (key : String) : Except ConditionFault Outcome → List Event
  | .ok _ => []
  | .error fault => [.lambdaRuleFailed key fault]

/-- Applying the rule of an entry leads to the state after its turn. -/
theorem apply_state_eq_after {key : String} {registration : Registration C A} {rule : LambdaRule C}
    (hasRule : registration.rule = some rule) (state : S) :
    (rule.apply (client.call key) signal (registration.reader client access state) state).state =
      (Turn.of client access (key, registration) state).after client signal := by
  rw [LambdaRule.apply_state]
  simp only [Turn.after, Turn.due?, Turn.of, hasRule, Option.bind_some]
  cases rule.due? signal (registration.reader client access state) <;> rfl

/-- An entry without a rule is passed over. -/
theorem after_of_rule_eq_none {entry : String × Registration C A} (noRule : entry.2.rule = none)
    (state : S) : (Turn.of client access entry state).after client signal = state := by
  simp [Turn.after, Turn.due?, Turn.of, noRule]

/-- One entry with its rule and then the others. -/
theorem applyEntries_cons {key : String} {registration : Registration C A} {rule : LambdaRule C}
    (hasRule : registration.rule = some rule) (rest : List (String × Registration C A))
    (state : S) :
    applyEntries client signal access ((key, registration) :: rest) state =
      let turn := Turn.of client access (key, registration) state
      let run := rule.apply (client.call key) signal turn.access state
      let later := applyEntries client signal access rest (turn.after client signal)
      ⟨⟨key, run.value⟩ :: later.value,
        (if registration.access.isSome then [] else turn.reads signal) ++ later.reads,
        run.log ++ failureEvents key run.value ++ later.log, later.state⟩ := by
  simp only [applyEntries, hasRule, apply_state_eq_after hasRule, LambdaRule.apply_reads,
    Turn.reads, Turn.of]
  rfl

theorem applyEntries_cons_state (entry : String × Registration C A)
    (rest : List (String × Registration C A)) (state : S) :
    (applyEntries client signal access (entry :: rest) state).state =
      (applyEntries client signal access rest
        ((Turn.of client access entry state).after client signal)).state := by
  obtain ⟨key, registration⟩ := entry
  cases hasRule : registration.rule with
  | none =>
    rw [after_of_rule_eq_none hasRule]
    simp only [applyEntries, hasRule]
  | some rule => rw [applyEntries_cons hasRule]

theorem applyEntries_reports (ruled : ∀ entry ∈ entries, entry.2.rule.isSome) (state : S) :
    List.Forall₂ (EntryReport.IsOf client signal) (turnsOf client signal access entries state)
      (applyEntries client signal access entries state).value := by
  induction entries generalizing state with
  | nil => exact .nil
  | cons entry rest ih =>
    obtain ⟨key, registration⟩ := entry
    obtain ⟨rule, hasRule⟩ := Option.isSome_iff_exists.mp (ruled _ List.mem_cons_self)
    rw [applyEntries_cons hasRule]
    exact .cons ⟨rfl, rule, hasRule, rule.apply_value state⟩
      (ih (fun other member => ruled other (List.mem_cons_of_mem _ member)) _)

/-- What callbacks keep is true when each entry has its turn, and in the end. -/
theorem applyEntries_keeps {P : S → Prop}
    (keeps : ∀ key holds callback state, P state → P (client.call key holds callback state).state)
    (entries : List (String × Registration C A)) {state : S} (now : P state) :
    (∀ turn ∈ turnsOf client signal access entries state, P turn.state) ∧
      P (applyEntries client signal access entries state).state := by
  induction entries generalizing state with
  | nil => exact ⟨fun _ member => absurd member List.not_mem_nil, now⟩
  | cons entry rest ih =>
    have after : P ((Turn.of client access entry state).after client signal) := by
      unfold Turn.after
      split
      · exact now
      · exact keeps _ _ _ _ now
    obtain ⟨turns, last⟩ := ih after
    refine ⟨List.forall_mem_cons.mpr ⟨now, turns⟩, ?_⟩
    rw [applyEntries_cons_state]
    exact last

/-- Nothing matters of a client and an access but what callbacks do and what is read at the turns
of the entries. -/
theorem applyEntries_congr {state : S}
    (alike : ∀ turn ∈ turnsOf client signal access entries state,
      turn.IsAlike client other signal otherAccess) :
    applyEntries other signal otherAccess entries state =
      applyEntries client signal access entries state := by
  induction entries generalizing state with
  | nil => rfl
  | cons entry rest ih =>
    obtain ⟨here, behind⟩ := List.forall_mem_cons.mp alike
    have later := ih behind
    obtain ⟨key, registration⟩ := entry
    cases hasRule : registration.rule with
    | none =>
      rw [after_of_rule_eq_none hasRule] at later
      simpa only [applyEntries, hasRule] using later
    | some rule =>
      have same : rule.apply (other.call key) signal
            (registration.reader other otherAccess state) state =
          rule.apply (client.call key) signal (registration.reader client access state) state := by
        refine LambdaRule.apply_congr here.call fun property member => here.reads property ?_
        simpa only [Turn.reads, Turn.of, hasRule] using member
      simp only [applyEntries, hasRule, same, apply_state_eq_after hasRule, later]

end Registry

end ActiveRules
