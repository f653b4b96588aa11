import ActiveRules.Proofs.DueCallbacks
import ActiveRules.Proofs.Registries

/-!
# Reports on the entries of a registry

A registry that is applied reports on each of its entries, in order, by what the entry's own rule
comes to.  Callbacks are whatever the host makes of them: what they answer may depend on all that
went before, and so may what is read.

## Main definitions

* `LambdaRule.IsOutcome`: what a lambda rule comes to, by its trigger and its condition.
* `CallbackRun`: a callback that was run, and what it answered.
* `Client.recorded`: a client that also writes down the callbacks that it runs.
* `EntryReport.IsOn`: the report on an entry.
* `Turn.readsByDefault`: what an entry reads through the access of the registry.

## Main statements

* `LambdaRule.apply_recorded`, `Registry.applyEntries_recorded`: the callbacks that are run are
  those that the reports tell of.
* `Registry.applyEntries_reads`: the properties that are read through the access of the registry.
* `Registry.apply_all_reports_every_entry`: all this for the registries that can be reached.
-/

namespace ActiveRules

variable {C A S : Type} {signal : String}

/-- A callback that was run, and what it answered. -/
structure CallbackRun (C : Type) extends DueCall C where
  answer : Bool

/-- A client that does as another one does and writes down each callback that it runs. -/
def Client.recorded (client : Client C A S) : Client C A (List (CallbackRun C) × S) where
  call key holds callback := fun (runs, state) =>
    let run := client.call key holds callback state
    ⟨run.value, run.reads, run.log, (runs ++ [⟨⟨key, holds, callback⟩, run.value⟩], run.state)⟩
  look own := client.look own ∘ Prod.snd

namespace LambdaRule

variable {access : Access} (rule : LambdaRule C)

/-- The outcome of a lambda rule on a signal: it is passed over unless the signal is its trigger, it
fails with its condition, it matches if the condition holds or is missing, and otherwise it does
not match; then there is an answer if there is a callback for that. -/
structure IsOutcome (signal : String) (access : Access) (result : Except ConditionFault Outcome) :
    Prop where
  skipped : result = .ok .skipped ↔ rule.header.trigger ≠ signal
  failed (fault : ConditionFault) : result = .error fault ↔ rule.header.trigger = signal ∧
    (Condition.evaluateOptional access rule.header.condition).result = .error fault
  matched : (∃ answer, result = .ok (.matched answer)) ↔ rule.header.trigger = signal ∧
    (Condition.evaluateOptional access rule.header.condition).result = .ok true
  unanswered : result = .ok (.unmatched none) ↔ (rule.header.trigger = signal ∧
    (Condition.evaluateOptional access rule.header.condition).result = .ok false) ∧
      rule.onMismatch = none
  unmatched : (∃ answer, result = .ok (.unmatched (some answer))) ↔ (rule.header.trigger = signal ∧
    (Condition.evaluateOptional access rule.header.condition).result = .ok false) ∧
      ∃ callback, rule.onMismatch = some callback

/-- The callback that was run under a key, by what the rule came to. -/
def run? (key : String) : Except ConditionFault Outcome → Option (CallbackRun C)
  | .ok (.matched answer) => some ⟨⟨key, true, rule.onMatch⟩, answer⟩
  | .ok (.unmatched (some answer)) =>
    rule.onMismatch.map fun callback => ⟨⟨key, false, callback⟩, answer⟩
  | _ => none

variable {rule}

theorem isOutcome_apply (call : Caller C S) (state : S) :
    rule.IsOutcome signal access (rule.apply call signal access state).value := by
  have course := rule.apply_course call signal access state
  generalize rule.apply call signal access state = run at course ⊢
  cases course with
  | skipped other => constructor <;> simp [other]
  | failed fires evaluated => constructor <;> simp [fires, evaluated]
  | matched fires evaluated called => constructor <;> simp [fires, evaluated]
  | unanswered fires evaluated silent => constructor <;> simp [fires, evaluated, silent]
  | unmatched fires evaluated mismatch called => constructor <;> simp [fires, evaluated, mismatch]

/-- The callback that the outcome tells of is run, and no other. -/
theorem apply_recorded (client : Client C A S) (key : String) (runs : List (CallbackRun C))
    (state : S) :
    rule.apply (client.recorded.call key) signal access (runs, state) =
      let run := rule.apply (client.call key) signal access state
      ⟨run.value, run.reads, run.log, (runs ++ (rule.run? key run.value).toList, run.state)⟩ := by
  unfold apply
  split
  · generalize Condition.evaluateOptional access rule.header.condition = evaluation
    obtain ⟨result, reads⟩ := evaluation
    cases result with
    | error fault => simp [run?]
    | ok holds =>
      cases holds with
      | true => simp [callBack, Client.recorded, run?]
      | false =>
        cases mismatch : rule.onMismatch <;> simp [callBack, Client.recorded, run?, mismatch]
  · simp [run?]

end LambdaRule

/-! ## Entries -/

/-- The properties that the entry whose turn it is reads through the access of the registry: none if
it has an access of its own. -/
def Turn.readsByDefault (signal : String) (turn : Turn C A S) : List String :=
  if turn.registration.access.isSome then [] else turn.reads signal

/-- The report on the entry whose turn it is bears its key and gives the outcome of its rule, which
is made of the header that its text is and of its callbacks, and whose condition is read through its
own access if it has one. -/
structure EntryReport.IsOn (signal : String) (turn : Turn C A S) (report : EntryReport) :
    Prop where
  key : report.key = turn.key
  outcome : ∃ header onMatch, Header.parse turn.registration.text = .ok header ∧
    turn.registration.onMatch = some onMatch ∧
    turn.registration.rule = some ⟨header, onMatch, turn.registration.onMismatch⟩ ∧
    LambdaRule.IsOutcome ⟨header, onMatch, turn.registration.onMismatch⟩ signal turn.access
      report.result

/-- The callback of an entry that the report on it tells of. -/
def EntryReport.run? (entry : String × Registration C A) (report : EntryReport) :
    Option (CallbackRun C) :=
  entry.2.rule.bind fun rule => rule.run? entry.1 report.result

namespace Registry

variable {client : Client C A S} {access : S → Access}
  {entries : List (String × Registration C A)}

/-- The callbacks that are run are those that the reports tell of, in the same order. -/
theorem applyEntries_recorded (ruled : ∀ entry ∈ entries, entry.2.rule.isSome)
    (runs : List (CallbackRun C)) (state : S) :
    applyEntries client.recorded signal (access ∘ Prod.snd) entries (runs, state) =
      let run := applyEntries client signal access entries state
      ⟨run.value, run.reads, run.log,
        (runs ++ (entries.zip run.value).filterMap (fun (entry, report) => report.run? entry),
          run.state)⟩ := by
  induction entries generalizing runs state with
  | nil => simp [applyEntries]
  | cons entry rest ih =>
    obtain ⟨key, registration⟩ := entry
    obtain ⟨rule, hasRule⟩ := Option.isSome_iff_exists.mp (ruled _ List.mem_cons_self)
    have later := ih fun other member => ruled other (List.mem_cons_of_mem _ member)
    have hasRuleHere : registration.rule = some rule := hasRule
    have reader : registration.reader client.recorded (access ∘ Prod.snd) (runs, state) =
        registration.reader client access state := by
      unfold Registration.reader
      cases registration.access <;> rfl
    simp only [applyEntries, hasRuleHere, reader, LambdaRule.apply_recorded, later,
      List.zip_cons_cons, List.filterMap_cons, EntryReport.run?, Option.bind_some]
    cases rule.run? key _ <;> simp

/-- What is read through the access of the registry is read by entries without one of their own. -/
theorem applyEntries_reads (entries : List (String × Registration C A)) (state : S) :
    (applyEntries client signal access entries state).reads =
      (turnsOf client signal access entries state).flatMap (Turn.readsByDefault signal) := by
  induction entries generalizing state with
  | nil => rfl
  | cons entry rest ih =>
    obtain ⟨key, registration⟩ := entry
    simp only [turnsOf, List.flatMap_cons]
    rw [← ih]
    cases hasRule : registration.rule with
    | none =>
      have passed : (Turn.of client access (key, registration) state).readsByDefault signal =
          [] := by
        simp [Turn.readsByDefault, Turn.reads, Turn.of, hasRule]
      rw [passed, after_of_rule_eq_none hasRule]
      simp only [applyEntries, hasRule, List.nil_append]
    | some rule =>
      rw [applyEntries_cons hasRule]
      rfl

/-- There is one report on each entry, in order. -/
theorem applyEntries_isOn (compiled : ∀ entry ∈ entries, entry.2.IsCompiled) (state : S) :
    List.Forall₂ (EntryReport.IsOn signal) (turnsOf client signal access entries state)
      (applyEntries client signal access entries state).value := by
  induction entries generalizing state with
  | nil => exact .nil
  | cons entry rest ih =>
    obtain ⟨key, registration⟩ := entry
    obtain ⟨onMatch, header, given, parsed, made⟩ := compiled _ List.mem_cons_self
    rw [applyEntries_cons made]
    exact .cons ⟨rfl, header, onMatch, parsed, given, made, LambdaRule.isOutcome_apply _ state⟩
      (ih (fun other member => compiled other (List.mem_cons_of_mem _ member)) _)

/-- An access that reads alike what entries read through the access of the registry will do in its
place. -/
theorem isAlike_of_readsByDefault {other : S → Access} {turn : Turn C A S}
    (reader : turn.access = turn.registration.reader client access turn.state)
    (alike : ∀ property ∈ turn.readsByDefault signal,
      (access turn.state).read property = (other turn.state).read property ∧
        (access turn.state).events property = (other turn.state).events property) :
    turn.IsAlike client client signal other where
  call _ _ := rfl
  reads := by
    intro property member
    rw [reader]
    unfold Registration.reader
    cases own : turn.registration.access with
    | some own => exact ⟨rfl, rfl⟩
    | none => exact alike property (by simpa [Turn.readsByDefault, own] using member)

/-- A registry that is applied reports on each of its entries, once and in order, by what came of
the entry's own rule; none is passed over for want of a rule.  Every entry is read in the state in
which it has its turn, which is that after the callbacks of the entries before it.  Exactly those
callbacks are run that the reports tell of, in the same order, each with the answer that its report
gives, and writing them down disturbs nothing.  The access of the registry is read by the entries
that fire and have none of their own, and whatever else it holds does not matter. -/
theorem apply_all_reports_every_entry {registry : Registry C A} (reachable : registry.Reachable)
    (client : Client C A S) (signal : String) (access : S → Access) (state : S) :
    let run := registry.applyAll client signal access state
    let watched := registry.applyAll client.recorded signal (access ∘ Prod.snd) ([], state)
    let runs := watched.state.1
    let turns := registry.turns client signal access state
    watched = ⟨run.value, run.reads, run.log, (runs, run.state)⟩ ∧
    turns.map Turn.entry = registry.entries ∧
    List.Forall₂ (EntryReport.IsOn signal) turns run.value ∧
    runs = (registry.entries.zip run.value).filterMap
      (fun (entry, report) => report.run? entry) ∧
    run.reads = turns.flatMap (Turn.readsByDefault signal) ∧
    ∀ other : S → Access, (∀ turn ∈ turns, ∀ property ∈ turn.readsByDefault signal,
        (access turn.state).read property = (other turn.state).read property ∧
          (access turn.state).events property = (other turn.state).events property) →
      registry.applyAll client signal other state = run := by
  intro run watched runs turns
  have sound := reachable.sound
  have recorded : watched = _ := applyEntries_recorded sound.ruled [] state
  have made : runs = (registry.entries.zip run.value).filterMap
      (fun (entry, report) => report.run? entry) := congrArg (·.state.1) recorded
  refine ⟨?_, map_entry_turnsOf registry.entries state, applyEntries_isOn sound.compiled state,
    made, applyEntries_reads registry.entries state, ?_⟩
  · rw [made]
    exact recorded
  · intro other alike
    exact applyEntries_congr fun turn member =>
      isAlike_of_readsByDefault (access_of_mem_turnsOf member) (alike turn member)

/-- An access of its own, a property that is missing, another trigger and a missing callback affect
no other entry.  Every callback answers by how many there were before it, and after three of them
the title is another one. -/
theorem apply_all_reports_entries_of_every_kind :
    let plain : Registration String PropertyTable := ⟨"on created", some "show", none, none, none⟩
    let ofMail := { plain with text := "on created if title == \"mail\"" }
    let mail := PropertyTable.empty.set "title" (.string "mail")
    let dock := { ofMail with access := some mail }
    let tray := { plain with text := "on created if colour == true" }
    let menu := { plain with text := "on maximized" }
    let shell := { ofMail with onMismatch := some "hide" }
    let registry := [("panel", plain), ("dock", dock), ("tray", tray), ("menu", menu),
      ("shell", shell), ("window", ofMail)].foldl
        (fun registry entry => (registry.register entry.1 entry.2).2) Registry.empty
    let client : Client String PropertyTable Nat :=
      ⟨fun _ _ _ count => ⟨count % 2 == 0, [], [], count + 1⟩, fun own _ => own.access⟩
    let title : Nat → String := fun count => if count < 3 then "notes" else "mail"
    let table : Nat → PropertyTable := fun count =>
      PropertyTable.empty.set "title" (.string (title count))
    let access := PropertyTable.access ∘ table
    let run := registry.applyAll client "created" access 0
    let runs := (registry.applyAll client.recorded "created" (access ∘ Prod.snd) ([], 0)).state.1
    let turns := registry.turns client "created" access 0
    registry.Reachable ∧
    List.Forall₂ (EntryReport.IsOn "created") turns run.value ∧
    run.value.map (fun report => (report.key, report.result)) =
      [("panel", .ok (.matched true)), ("dock", .ok (.matched false)),
        ("tray", .error (.read (.unknownProperty "colour"))), ("menu", .ok .skipped),
        ("shell", .ok (.unmatched (some true))), ("window", .ok (.matched false))] ∧
    runs.map (fun run => (run.key, run.callback, run.answer)) =
      [("panel", "show", true), ("dock", "show", false), ("shell", "hide", true),
        ("window", "show", false)] ∧
    turns.map Turn.state = [0, 1, 2, 2, 2, 3] ∧
    run.reads = ["colour", "title", "title"] ∧
    registry.applyAll client "created"
      (fun count => ((table count).set "app_id" (.string "term")).access) 0 = run := by
  intro plain ofMail mail dock tray menu shell registry client title table access run runs turns
  have reachable : registry.Reachable :=
    .register (.register (.register (.register (.register (.register .empty _ _) _ _) _ _) _ _)
      _ _) _ _
  obtain ⟨-, -, reports, made, reads, alike⟩ :=
    apply_all_reports_every_entry reachable client "created" access 0
  have readsHere : run.reads = ["colour", "title", "title"] := reads.trans (by decide +kernel)
  refine ⟨reachable, reports, by decide +kernel, ?_, by decide +kernel, readsHere, alike _ ?_⟩
  · exact (congrArg (List.map _) made).trans (by decide +kernel)
  · intro turn isTurn property member
    have inside : property ∈ run.reads := by
      rw [show run.reads = _ from reads]
      exact List.mem_flatMap.mpr ⟨turn, isTurn, member⟩
    rw [readsHere] at inside
    simp only [List.mem_cons, List.not_mem_nil, or_false, or_self] at inside
    rcases inside with rfl | rfl <;> exact ⟨rfl, rfl⟩

end Registry

end ActiveRules
