import ActiveRules.Proofs.DueCallbacks
import ActiveRules.Proofs.Registries

/-!
# Walks of the shared registry

While the shared registry is walked, the callbacks that are run may change it or break it.  The
walk does not notice: it goes on with the entries that were there at its beginning.  The shared
registry, for its part, does not notice the walk: nobody holds it while a callback runs, and it
comes to be as if the commands of the callbacks had been given one after the other.

## Main definitions

* `Command.isDirect`: the commands that hold the shared registry, and run no callbacks.
* `Turn.commands`, `Turn.notes`: what callbacks do at their turns, and what is seen of it.
* `SharedRegistry.Lasting`: what is true of the shared registry, however it is changed.
* `Host.HasLostShared`: the shared registry is unavailable to the host.
* `Host.AgreeWhileFree`: two clients do the same while nobody holds the shared registry.

## Main statements

* `Host.run_noted`: notes are taken of the commands of a callback, and do not bear on them.
* `Host.walk_state`: a walk leaves the host as the commands of its callbacks do.
* `Host.keepsShared_perform`: what lasts of the shared registry, whatever is done to it.
* `Host.shared_reachable`: the shared registry is always one that its operations lead to.
* `Host.free_at_turns`: nobody holds the shared registry when an entry has its turn.
* `Host.HasLostShared.performAll`: a shared registry that is lost remains so.
* `Host.shared_walk_is_undisturbed`: all this for a walk of the shared registry.
-/

namespace ActiveRules

variable {A B : Type}

/-! ## Direct commands -/

/-- Is this a command that holds a registry and runs no callbacks, or that breaks down while it
holds one? -/
def Command.isDirect : Command A → Bool
  | .register .. | .unregister _ | .get _ | .inspect _ | .count | .enumerate | .breakDown => true
  | .applyAll .. | .keep _ | .recall _ | .applyKept .. | .walk _ => false

/-- The reply to a direct command once the shared registry is unavailable. -/
def Command.replyWhenLost : Command A → Reply (Callback A) A
  | .breakDown => .broken
  | _ => .refused .unavailable

namespace Host

variable {look : A → Host A → Access} {depth : Nat} {command : Command A}
  {commands : List (Command A)} {step : Performer A}

/-- Carrying out the command does not depend on the notes of a host, and leaves them. -/
def OverlooksNotes (step : Performer A) (command : Command A) : Prop :=
  ∀ host notes, step command { host with notes := notes } =
    let run := step command host
    ⟨run.value, run.reads, run.log, { run.state with notes := notes }⟩

theorem holdFor_overlooks_notes
    (use : Registry (Callback A) A →
      (Reply (Callback A) A × List Event) × Registry (Callback A) A)
    (host : Host A) (notes : List (Note A)) :
    holdFor { host with notes := notes } .shared use =
      let run := holdFor host .shared use
      ⟨run.value, run.reads, run.log, { run.state with notes := notes }⟩ := by
  obtain ⟨own, shared, kept, earlier⟩ := host
  cases shared <;> rfl

theorem overlooksNotes_of_isDirect (isDirect : command.isDirect = true) :
    OverlooksNotes (perform look (depth + 1) .shared) command := by
  intro host notes
  cases command with
  | register | unregister | get | inspect | count | enumerate =>
    exact holdFor_overlooks_notes _ host notes
  | breakDown =>
    obtain ⟨own, shared, kept, earlier⟩ := host
    cases shared <;> rfl
  | _ => cases isDirect

theorem inOrder_overlooks_notes (overlook : ∀ command ∈ commands, OverlooksNotes step command)
    (host : Host A) (notes : List (Note A)) :
    inOrder step commands { host with notes := notes } =
      let run := inOrder step commands host
      ⟨run.value, [], run.log, { run.state with notes := notes }⟩ := by
  induction commands generalizing host with
  | nil => rfl
  | cons command rest ih =>
    have now := overlook command List.mem_cons_self host notes
    have later := ih fun other member => overlook other (List.mem_cons_of_mem command member)
    simp only [inOrder, now, later]

/-- Notes are taken of the commands of a callback, and do not bear on them. -/
theorem run_noted (callback : Callback A) {host : Host A}
    (overlook : ∀ command ∈ callback.queries step Reply.seen host, OverlooksNotes step command)
    (notes : List (Note A)) :
    (callback.run (noted step) Reply.seen { host with notes := notes }).state =
      let run := inOrder step (callback.queries step Reply.seen host) host
      { run.state with notes := notes ++ run.value.map .replied } := by
  -- By the replies: each of them is what the rest of the callback goes by.
  induction callback generalizing host notes with
  | answer result => simp [Dialogue.run, Dialogue.queries, inOrder]
  | ask command next ih =>
    have now := overlook command List.mem_cons_self host notes
    have later := ih (Reply.seen (step command host).value)
      fun other member => overlook other (List.mem_cons_of_mem command member)
    simp only [Dialogue.run, noted, now, note, Dialogue.queries, inOrder, List.map_cons]
    rw [later]
    simp

end Host

/-! ## Walks -/

namespace Turn

/-- The commands that the callback gives whose turn it is. -/
def commands (step : Performer A) (signal : String) (turn : Turn (Callback A) A (Host A)) :
    List (Command A) :=
  match turn.due? signal with
  | none => []
  | some due => due.callback.queries step Reply.seen turn.state

/-- What is seen of the callback whose turn it is, apart from replies. -/
def started (signal : String) (turn : Turn (Callback A) A (Host A)) : List (Note A) :=
  ((turn.due? signal).map fun due => .started due.holds due.key).toList

/-- What is seen of callbacks at their turns, given the replies to all their commands. -/
def notes (step : Performer A) (signal : String) :
    List (Turn (Callback A) A (Host A)) → List (Reply (Callback A) A) → List (Note A)
  | [], _ => []
  | turn :: later, replies =>
    let count := (turn.commands step signal).length
    turn.started signal ++ (replies.take count).map .replied ++
      notes step signal later (replies.drop count)

end Turn

namespace Host

variable {look : A → Host A → Access} {step : Performer A} {signal : String}
  {access : Host A → Access}

/-- A turn leaves the host as the commands of the callback do, and notes. -/
theorem after_turn {entry : String × Registration (Callback A) A} {host : Host A}
    {notes : List (Note A)} :
    let turn := Turn.of (client look step) access entry { host with notes := notes }
    (∀ command ∈ turn.commands step signal, OverlooksNotes step command) →
      turn.after (client look step) signal =
        let run := inOrder step (turn.commands step signal) host
        { run.state with notes := notes ++ turn.started signal ++ run.value.map .replied } := by
  intro turn overlook
  unfold Turn.commands at overlook ⊢
  unfold Turn.after Turn.started
  cases isDue : turn.due? signal with
  | none => simp [inOrder, turn, Turn.of]
  | some due =>
    rw [isDue] at overlook
    have ran := run_noted due.callback overlook (notes ++ [.started due.holds due.key])
    have same := inOrder_overlooks_notes overlook host notes
    have here : turn.state = { host with notes := notes } := rfl
    simp only [DueCall.run, client, call, note, here] at ran same ⊢
    rw [ran, same]
    rfl

/-- The entries applied leave the host as all commands of their callbacks do, and notes. -/
theorem applyEntries_state (entries : List (String × Registration (Callback A) A)) (host : Host A)
    (notes : List (Note A)) :
    let turns := Registry.turnsOf (client look step) signal access entries
      { host with notes := notes }
    (∀ command ∈ turns.flatMap (Turn.commands step signal), OverlooksNotes step command) →
      (Registry.applyEntries (client look step) signal access entries
          { host with notes := notes }).state =
        let run := inOrder step (turns.flatMap (Turn.commands step signal)) host
        { run.state with notes := notes ++ Turn.notes step signal turns run.value } := by
  induction entries generalizing host notes with
  | nil =>
    intro turns _
    simp [turns, Registry.turnsOf, Registry.applyEntries, inOrder, Turn.notes]
  | cons entry rest ih =>
    intro turns overlook
    let turn := Turn.of (client look step) access entry { host with notes := notes }
    have parts : turns = turn :: Registry.turnsOf (client look step) signal access rest
        (turn.after (client look step) signal) := rfl
    rw [parts, List.flatMap_cons] at overlook ⊢
    have after := after_turn fun command member =>
      overlook command (List.mem_append_left _ member)
    rw [Registry.applyEntries_cons_state]
    rw [show turn.after _ signal = _ from after] at overlook ⊢
    rw [ih _ _ fun command member => overlook command (List.mem_append_right _ member)]
    simp [inOrder_append, Turn.notes, turn]

/-- A copy of the shared registry is made at once, and then nobody holds it. -/
theorem applyPresent_of_available {registry : Registry (Callback A) A} {host : Host A}
    (available : host.shared = .available registry) (client : Client (Callback A) A (Host A))
    (signal : String) (access : Host A → Access) :
    host.applyPresent client .shared signal access =
      let run := registry.applyAll client signal access host
      ⟨.ok run.value, run.reads, run.log, run.state⟩ := by
  obtain ⟨own, shared, kept, notes⟩ := host
  cases available
  rfl

/-- A walk of the shared registry leaves the host as all commands of its callbacks do, and notes. -/
theorem walk_state {registry : Registry (Callback A) A} {host : Host A}
    (available : host.shared = .available registry) :
    let turns := registry.turns (client look step) signal access host
    (∀ command ∈ turns.flatMap (Turn.commands step signal), OverlooksNotes step command) →
      (host.applyPresent (client look step) .shared signal access).state =
        let run := inOrder step (turns.flatMap (Turn.commands step signal)) host
        { run.state with notes := host.notes ++ Turn.notes step signal turns run.value } := by
  intro turns overlook
  rw [applyPresent_of_available available]
  exact applyEntries_state registry.entries host host.notes overlook

theorem walk_value {registry : Registry (Callback A) A} {host : Host A}
    (available : host.shared = .available registry)
    (ruled : ∀ entry ∈ registry.entries, entry.2.rule.isSome)
    (client : Client (Callback A) A (Host A)) (signal : String) (access : Host A → Access) :
    ∃ reports, (host.applyPresent client .shared signal access).value = .ok reports ∧
      List.Forall₂ (EntryReport.IsOf client signal)
        (registry.turns client signal access host) reports := by
  rw [applyPresent_of_available available]
  exact ⟨_, rfl, Registry.applyEntries_reports ruled host⟩

end Host

/-! ## What lasts -/

/-- What the operations of a shared registry keep, and breaking down does too. -/
structure SharedRegistry.Lasting (P : SharedRegistry (Callback A) A → Prop) : Prop where
  register {registry : Registry (Callback A) A} (now : P (.available registry)) (key : String)
    (registration : Registration (Callback A) A) :
    P (.available (registry.register key registration).2)
  unregister {registry : Registry (Callback A) A} (now : P (.available registry)) (key : String) :
    P (.available (registry.unregister key).2)
  unavailable : P .unavailable

theorem SharedRegistry.isFree_of_available {shared : SharedRegistry (Callback A) A}
    {registry : Registry (Callback A) A} (available : shared = .available registry) :
    shared.IsFree := by
  rw [available]
  exact nofun

theorem SharedRegistry.lasting_isFree :
    Lasting fun shared : SharedRegistry (Callback A) A => shared.IsFree where
  register := nofun
  unregister := nofun
  unavailable := nofun

namespace Host

variable {P : SharedRegistry (Callback A) A → Prop} {look : A → Host A → Access}
  {step : Performer A}

/-- Holding a registry keeps of the shared one what the computation keeps. -/
theorem shared_hold
    {use : Registry (Callback A) A → (B × List Event) × Registry (Callback A) A}
    (lasts : ∀ registry, P (.available registry) → P (.available (use registry).2)) (scope : Scope)
    {host : Host A} (now : P host.shared) : P (host.hold scope use).state.shared := by
  obtain ⟨own, shared, kept, notes⟩ := host
  cases scope with
  | own => exact now
  | shared =>
    cases shared with
    | available registry => exact lasts registry now
    | held registry => exact now
    | unavailable => exact now

theorem shared_snapshot (scope : Scope) {host : Host A} (now : P host.shared) :
    P (host.snapshot scope).state.shared :=
  shared_hold (fun _ now => now) scope now

/-- Carrying out a command, whichever it is, keeps what is true of the shared registry. -/
def KeepsShared (P : SharedRegistry (Callback A) A → Prop) (step : Performer A) : Prop :=
  ∀ command host, P host.shared → P (step command host).state.shared

theorem KeepsShared.inOrder (keeps : KeepsShared P step) (commands : List (Command A))
    {host : Host A} (now : P host.shared) : P (Host.inOrder step commands host).state.shared := by
  induction commands generalizing host with
  | nil => exact now
  | cons command rest ih => exact ih (keeps command host now)

theorem KeepsShared.run (keeps : KeepsShared P step) (callback : Callback A) {host : Host A}
    (now : P host.shared) : P (callback.run step Reply.seen host).state.shared := by
  induction callback generalizing host with
  | answer result => exact now
  | ask command next ih => exact ih _ (keeps command host now)

theorem KeepsShared.call (keeps : KeepsShared P step) (key : String) (holds : Bool)
    (callback : Callback A) (host : Host A) (now : P host.shared) :
    P ((client look step).call key holds callback host).state.shared :=
  have keepsNoted : KeepsShared P (noted step) := keeps
  keepsNoted.run callback now

/-- What lasts of the shared registry is true when each entry has its turn, and in the end. -/
theorem KeepsShared.applyAll (keeps : KeepsShared P step) (registry : Registry (Callback A) A)
    (signal : String) (access : Host A → Access) {host : Host A} (now : P host.shared) :
    (∀ turn ∈ registry.turns (client look step) signal access host, P turn.state.shared) ∧
      P (registry.applyAll (client look step) signal access host).state.shared :=
  Registry.applyEntries_keeps (P := fun host : Host A => P host.shared) keeps.call
    registry.entries now

theorem KeepsShared.visitEach (keeps : KeepsShared P step) (commands : List (Command A))
    (entries : List (String × Registration (Callback A) A)) {host : Host A} (now : P host.shared) :
    P (Host.visitEach step commands entries host).state.shared := by
  induction entries generalizing host with
  | nil => exact now
  | cons entry rest ih => exact ih (keeps.inOrder _ now)

theorem shared_breakDown (lasting : SharedRegistry.Lasting P) {host : Host A}
    (now : P host.shared) : P host.breakDown.state.shared := by
  obtain ⟨own, shared, kept, notes⟩ := host
  cases shared with
  | available registry => exact lasting.unavailable
  | held registry => exact now
  | unavailable => exact now

/-- What lasts of the shared registry is kept by every command, however deeply nested. -/
theorem keepsShared_perform (lasting : SharedRegistry.Lasting P) (look : A → Host A → Access)
    (depth : Nat) (scope : Scope) : KeepsShared P (perform look depth scope) := by
  -- Callbacks work on the shared registry and walks on either, so the scope is generalised.
  induction depth generalizing scope with
  | zero => exact fun _ _ now => now
  | succ depth nested =>
    intro command host now
    cases command with
    | register key registration =>
      exact shared_hold (fun registry now => lasting.register now key registration) scope now
    | unregister key => exact shared_hold (fun registry now => lasting.unregister now key) scope now
    | get | inspect | count | enumerate => exact shared_hold (fun registry now => now) scope now
    | applyAll signal access =>
      simp only [perform, applyPresent]
      split
      · exact shared_snapshot scope now
      · exact ((nested .shared).applyAll _ signal _ (shared_snapshot scope now)).2
    | keep name =>
      simp only [perform]
      split <;> exact shared_snapshot scope now
    | «recall» name =>
      simp only [perform]
      split <;> exact now
    | applyKept name signal access =>
      simp only [perform]
      split
      · exact now
      · exact ((nested .shared).applyAll _ signal _ now).2
    | walk commands =>
      simp only [perform]
      split
      · exact shared_snapshot scope now
      · exact (nested scope).visitEach commands _ (shared_snapshot scope now)
    | breakDown => exact shared_breakDown lasting now

theorem shared_performAll (lasting : SharedRegistry.Lasting P) (look : A → Host A → Access)
    (depth : Nat) (scope : Scope) (commands : List (Command A)) {host : Host A}
    (now : P host.shared) : P (performAll look depth scope commands host).state.shared :=
  (keepsShared_perform lasting look depth scope).inOrder commands now

/-- Whatever a host did since its start, its shared registry is one that registering and
unregistering lead to. -/
theorem shared_reachable (look : A → Host A → Access) (depth : Nat) (scope : Scope)
    (commands : List (Command A)) {registry : Registry (Callback A) A}
    (available : (performAll look depth scope commands .start).state.shared =
      .available registry) :
    registry.Reachable := by
  have lasting : SharedRegistry.Lasting fun shared : SharedRegistry (Callback A) A =>
      ∀ registry, shared = .available registry → registry.Reachable :=
    { register := fun now key registration _ same =>
        SharedRegistry.available.inj same ▸ (now _ rfl).register key registration
      unregister := fun now key _ same =>
        SharedRegistry.available.inj same ▸ (now _ rfl).unregister key
      unavailable := nofun }
  have initially : ∀ registry, (start : Host A).shared = .available registry → registry.Reachable :=
    fun _ same => SharedRegistry.available.inj same ▸ .empty
  exact shared_performAll lasting look depth scope commands initially registry available

/-- While a free registry is walked, nobody holds the shared one when an entry has its turn, nor
after any commands that a callback gives then. -/
theorem free_at_turns {depth : Nat} {host : Host A} (free : host.shared.IsFree)
    (registry : Registry (Callback A) A) (signal : String) (access : Host A → Access) :
    ∀ turn ∈ registry.turns (client look (perform look depth .shared)) signal access host,
      ∀ commands, (performAll look depth .shared commands turn.state).state.shared.IsFree := by
  intro turn member commands
  have keeps := keepsShared_perform SharedRegistry.lasting_isFree look depth .shared
  exact keeps.inOrder commands ((keeps.applyAll registry signal access free).1 turn member)

/-- The two clients run callbacks in the same way and read the same, each with its access, while
nobody holds the shared registry. -/
structure AgreeWhileFree (client other : Client (Callback A) A (Host A))
    (access otherAccess : Host A → Access) : Prop where
  call {host : Host A} (free : host.shared.IsFree) (key : String) (holds : Bool)
    (callback : Callback A) :
    other.call key holds callback host = client.call key holds callback host
  look {host : Host A} (free : host.shared.IsFree) (own : A) :
    other.look own host = client.look own host
  access {host : Host A} (free : host.shared.IsFree) : otherAccess host = access host

/-- A walk only runs callbacks and reads while nobody holds the shared registry: what a client would
do otherwise does not matter. -/
theorem AgreeWhileFree.applyPresent {depth : Nat} {host : Host A}
    {other : Client (Callback A) A (Host A)} {access otherAccess : Host A → Access}
    (agree : AgreeWhileFree (client look (perform look depth .shared)) other access otherAccess)
    {registry : Registry (Callback A) A} (available : host.shared = .available registry)
    (signal : String) :
    host.applyPresent other .shared signal otherAccess =
      host.applyPresent (client look (perform look depth .shared)) .shared signal access := by
  have free := SharedRegistry.isFree_of_available available
  have keeps := keepsShared_perform SharedRegistry.lasting_isFree look depth .shared
  have alike : ∀ turn ∈ registry.turns (client look (perform look depth .shared)) signal access
      host, turn.IsAlike (client look (perform look depth .shared)) other signal otherAccess := by
    intro turn member
    have freeHere : turn.state.shared.IsFree :=
      (keeps.applyAll registry signal access free).1 turn member
    refine ⟨fun holds callback => agree.call freeHere turn.key holds callback, ?_⟩
    intro property _ reader
    have same : reader = turn.access := by
      rw [Registry.access_of_mem_turnsOf member]
      simp only [reader, Registration.reader]
      cases turn.registration.access with
      | none => exact agree.access freeHere
      | some own => exact agree.look freeHere own
    rw [same]
    exact ⟨rfl, rfl⟩
  rw [applyPresent_of_available available, applyPresent_of_available available]
  simp only [Registry.applyAll, Registry.applyEntries_congr alike]

end Host

/-! ## Breaking down -/

/-- The shared registry is unavailable to the host: asking for it is refused, a computation on it
does not take place, and neither does a walk of it. -/
structure Host.HasLostShared (host : Host A) : Prop where
  acquire : host.shared.acquire = (.error .unavailable, host.shared)
  hold {B : Type} (use : Registry (Callback A) A → (B × List Event) × Registry (Callback A) A) :
    host.hold .shared use = ⟨.error .unavailable, [], [.registryUnavailable], host⟩
  walk (client : Client (Callback A) A (Host A)) (signal : String) (access : Host A → Access) :
    host.applyPresent client .shared signal access =
      ⟨.error .unavailable, [], [.registryUnavailable], host⟩

/-- What a direct command makes of the shared registry. -/
def SharedRegistry.update (shared : SharedRegistry (Callback A) A) :
    Command A → SharedRegistry (Callback A) A
  | .register key registration =>
    (shared.hold fun registry => ((), (registry.register key registration).2)).2
  | .unregister key => (shared.hold fun registry => ((), (registry.unregister key).2)).2
  | .breakDown => .unavailable
  | _ => shared

namespace Host

variable {look : A → Host A → Access} {depth : Nat} {command : Command A}
  {commands : List (Command A)} {host : Host A}

theorem hasLostShared_iff : host.HasLostShared ↔ host.shared = .unavailable := by
  obtain ⟨own, shared, kept, notes⟩ := host
  cases shared with
  | available registry | held registry =>
    refine ⟨fun lost => ?_, nofun⟩
    cases lost.acquire
  | unavailable => exact ⟨fun _ => rfl, fun _ => ⟨rfl, fun _ => rfl, fun _ _ _ => rfl⟩⟩

/-- Whatever is done, a shared registry that is lost remains so. -/
theorem HasLostShared.performAll (lost : host.HasLostShared) (look : A → Host A → Access)
    (depth : Nat) (scope : Scope) (commands : List (Command A)) :
    (host.performAll look depth scope commands).state.HasLostShared := by
  have lasting : SharedRegistry.Lasting fun shared : SharedRegistry (Callback A) A =>
      shared = .unavailable :=
    { register := nofun
      unregister := nofun
      unavailable := rfl }
  exact hasLostShared_iff.mpr
    (shared_performAll lasting look depth scope commands (hasLostShared_iff.mp lost))

/-- Without the shared registry a direct command does nothing. -/
theorem HasLostShared.perform (lost : host.HasLostShared) (look : A → Host A → Access)
    (depth : Nat) (isDirect : command.isDirect = true) :
    (Host.perform look (depth + 1) .shared command host).value = command.replyWhenLost ∧
      (Host.perform look (depth + 1) .shared command host).state = host := by
  cases command with
  | register | unregister | get | inspect | count | enumerate =>
    simp only [Host.perform, holdFor, lost.hold, Reply.ofResult, Command.replyWhenLost, and_self]
  | breakDown =>
    simp only [Host.perform, breakDown, lost.acquire, Command.replyWhenLost, and_self]
  | _ => cases isDirect

theorem HasLostShared.inOrder (lost : host.HasLostShared) (look : A → Host A → Access)
    (depth : Nat) (direct : ∀ command ∈ commands, command.isDirect = true) :
    (Host.inOrder (Host.perform look (depth + 1) .shared) commands host).value =
        commands.map Command.replyWhenLost ∧
      (Host.inOrder (Host.perform look (depth + 1) .shared) commands host).state = host := by
  induction commands with
  | nil => exact ⟨rfl, rfl⟩
  | cons command rest ih =>
    obtain ⟨value, state⟩ := lost.perform look depth (direct command List.mem_cons_self)
    obtain ⟨later, same⟩ := ih fun other member => direct other (List.mem_cons_of_mem _ member)
    simp only [Host.inOrder, value, state, later, same, List.map_cons, and_self]

/-- A holder of a free registry that breaks down is the last one to hold it. -/
theorem perform_breakDown (look : A → Host A → Access) (depth : Nat)
    (free : host.shared.IsFree) :
    (perform look (depth + 1) .shared .breakDown host).value = .broken ∧
      (perform look (depth + 1) .shared .breakDown host).state =
        { host with shared := .unavailable } := by
  obtain ⟨own, shared, kept, notes⟩ := host
  cases shared with
  | available registry | unavailable => exact ⟨rfl, rfl⟩
  | held registry => exact absurd rfl (free registry)

/-- A holder that breaks down leaves nothing to do for the direct commands behind. -/
theorem inOrder_breakDown_cons (look : A → Host A → Access) (depth : Nat)
    (free : host.shared.IsFree) (direct : ∀ command ∈ commands, command.isDirect = true) :
    let run := inOrder (Host.perform look (depth + 1) .shared) (.breakDown :: commands) host
    run.value = .broken :: commands.map Command.replyWhenLost ∧
      run.state = { host with shared := .unavailable } := by
  obtain ⟨answer, broken⟩ := perform_breakDown look depth free
  have lost : HasLostShared { host with shared := .unavailable } := hasLostShared_iff.mpr rfl
  obtain ⟨value, state⟩ := lost.inOrder look depth direct
  simp only [inOrder, answer, broken, value, state, and_self]

theorem performAll_breakDown (free : host.shared.IsFree) (before : List (Command A))
    {after : List (Command A)} (direct : ∀ command ∈ after, command.isDirect = true) :
    let front := performAll look (depth + 1) .shared before host
    let run := performAll look (depth + 1) .shared (before ++ .breakDown :: after) host
    run.value = front.value ++ .broken :: after.map Command.replyWhenLost ∧
      run.state = { front.state with shared := .unavailable } := by
  intro front run
  have freeThen : front.state.shared.IsFree :=
    shared_performAll SharedRegistry.lasting_isFree look (depth + 1) .shared before free
  obtain ⟨value, state⟩ := inOrder_breakDown_cons look depth freeThen direct
  simp only [run, performAll, inOrder_append]
  exact ⟨congrArg (front.value ++ ·) value, state⟩

/-- The shared registry comes to be what direct commands make of it. -/
theorem shared_inOrder_of_isDirect (free : host.shared.IsFree)
    (direct : ∀ command ∈ commands, command.isDirect = true) :
    (performAll look (depth + 1) .shared commands host).state.shared =
      commands.foldl SharedRegistry.update host.shared := by
  induction commands generalizing host with
  | nil => rfl
  | cons command rest ih =>
    have front : (perform look (depth + 1) .shared command host).state.shared =
        host.shared.update command := by
      obtain ⟨own, shared, kept, notes⟩ := host
      cases command with
      | register | unregister | get | inspect | count | enumerate => cases shared <;> rfl
      | breakDown => exact congrArg Host.shared (perform_breakDown look depth free).2
      | _ => cases direct _ List.mem_cons_self
    have freeThen : (perform look (depth + 1) .shared command host).state.shared.IsFree :=
      keepsShared_perform SharedRegistry.lasting_isFree look (depth + 1) .shared command host free
    rw [List.foldl_cons, ← front]
    exact ih freeThen fun other member => direct other (List.mem_cons_of_mem command member)

/-- A walk of the shared registry reports on the entries that it had at the beginning, once each
and in order, whatever their callbacks do to it.  Nobody holds the shared registry when a callback
is run, and none of its commands leaves it held.  Meanwhile it comes to be as if the commands of
the callbacks had been given without a walk.  If one of these is to break down, the shared registry
is lost from then on, but the walk goes on. -/
theorem shared_walk_is_undisturbed (look : A → Host A → Access) (depth : Nat) (signal : String)
    (access : Host A → Access) (host : Host A) {registry : Registry (Callback A) A}
    (available : host.shared = .available registry) (reachable : registry.Reachable) :
    let step := Host.perform look (depth + 1) .shared
    let perform := performAll look (depth + 1) .shared
    let walk := host.applyPresent (client look step) .shared signal access
    let turns := registry.turns (client look step) signal access host
    let steps := turns.flatMap (Turn.commands step signal)
    let alone := perform steps host
    (∀ command ∈ steps, command.isDirect = true) →
    (∃ reports, walk.value = .ok reports ∧ registry.keys.Nodup ∧
      turns.map Turn.entry = registry.entries ∧
      List.Forall₂ (EntryReport.IsOf (client look step) signal) turns reports) ∧
    (∀ turn ∈ turns, ∀ commands, (perform commands turn.state).state.shared.IsFree) ∧
    (∀ other otherAccess, AgreeWhileFree (client look step) other access otherAccess →
      host.applyPresent other .shared signal otherAccess = walk) ∧
    walk.state =
      { alone.state with notes := host.notes ++ Turn.notes step signal turns alone.value } ∧
    walk.state.shared = steps.foldl SharedRegistry.update host.shared ∧
    (∀ before after, steps = before ++ .breakDown :: after →
      let front := perform before host
      alone.value = front.value ++ .broken :: after.map Command.replyWhenLost ∧
        alone.state = { front.state with shared := .unavailable }) ∧
    (.breakDown ∈ steps → ∀ nesting scope commands,
      (performAll look nesting scope commands walk.state).state.HasLostShared) := by
  intro step perform walk turns steps alone direct
  have free := SharedRegistry.isFree_of_available available
  have sound := reachable.sound
  obtain ⟨reports, answered, matching⟩ :=
    walk_value available sound.ruled (client look step) signal access
  have state : walk.state =
      { alone.state with notes := host.notes ++ Turn.notes step signal turns alone.value } :=
    walk_state available fun command member => overlooksNotes_of_isDirect (direct command member)
  -- A walk and its commands alone differ in notes, and in nothing else.
  have sameShared : walk.state.shared = alone.state.shared := by rw [state]
  have shared : walk.state.shared = steps.foldl SharedRegistry.update host.shared :=
    sameShared.trans (shared_inOrder_of_isDirect free direct)
  have broken : ∀ before after, steps = before ++ .breakDown :: after →
      let front := perform before host
      alone.value = front.value ++ .broken :: after.map Command.replyWhenLost ∧
        alone.state = { front.state with shared := .unavailable } := by
    intro before after parts
    have directAfter : ∀ command ∈ after, command.isDirect = true := fun command member =>
      direct command (by simp [parts, member])
    simp only [alone, parts]
    exact performAll_breakDown free before directAfter
  refine ⟨⟨reports, answered, sound.distinct, Registry.map_entry_turnsOf registry.entries host,
    matching⟩, free_at_turns free registry signal access,
    fun _ _ agree => agree.applyPresent available signal, state, shared, broken, ?_⟩
  intro member nesting scope commands
  obtain ⟨before, after, parts⟩ := List.append_of_mem member
  have lost : walk.state.HasLostShared :=
    hasLostShared_iff.mpr (sameShared.trans (congrArg Host.shared (broken before after parts).2))
  exact lost.performAll look nesting scope commands

/-- A callback that takes out its own entry and answers by whether it was there, and one that
breaks down, do not keep the entries from being walked; what comes behind finds the shared registry
lost. -/
theorem shared_walk_goes_on_after_break_down :
    let look : PropertyTable → Host PropertyTable → Access := fun table _ => table.access
    let wasThere : Reply Unit PropertyTable → Bool
      | .entry found => found.isSome
      | _ => false
    let plain : Registration (Callback PropertyTable) PropertyTable :=
      ⟨"on created", some (.answer true), none, none, none⟩
    let dock := { plain with
      onMatch := some (.ask (.unregister "dock") fun reply =>
        .ask (.register "tray" plain) fun _ => .answer (wasThere reply)) }
    let panel := { plain with
      text := "on created if title == \"mail\""
      onMismatch := some (.ofList [.enumerate, .breakDown, .get "shell"] false) }
    let shell := { plain with
      onMatch := some (.ask (.unregister "tray") fun reply => .answer (wasThere reply)) }
    let registry := (((Registry.empty.register "dock" dock).2.register "panel" panel).2.register
      "shell" shell).2
    let host : Host PropertyTable := { Host.start with shared := .available registry }
    let access : Host PropertyTable → Access :=
      fun _ => (PropertyTable.empty.set "title" (.string "notes")).access
    let step := Host.perform look 1 .shared
    let walk := host.applyPresent (client look step) .shared "created" access
    let turns := registry.turns (client look step) "created" access host
    let started? : Note PropertyTable → Option (Bool × String)
      | .started holds key => some (holds, key)
      | .replied _ => none
    registry.Reachable ∧
    (∀ command ∈ turns.flatMap (Turn.commands step "created"), command.isDirect = true) ∧
    (∃ reports, walk.value = .ok reports ∧
      List.Forall₂ (EntryReport.IsOf (client look step) "created") turns reports ∧
      reports.map (fun report => (report.key, report.result)) =
        [("dock", .ok (.matched true)), ("panel", .ok (.unmatched (some false))),
          ("shell", .ok (.matched false))]) ∧
    walk.state.notes.filterMap started? = [(true, "dock"), (false, "panel"), (true, "shell")] ∧
    (performAll look 3 .shared [.count, .breakDown] walk.state).state.HasLostShared := by
  intro look wasThere plain dock panel shell registry host access step walk turns started?
  have reachable : registry.Reachable :=
    .register (.register (.register .empty "dock" dock) "panel" panel) "shell" shell
  have direct : ∀ command ∈ turns.flatMap (Turn.commands step "created"),
      command.isDirect = true := by decide +kernel
  have breaks : (turns.flatMap (Turn.commands step "created")).any
      (fun | .breakDown => true | _ => false) = true := by decide +kernel
  obtain ⟨⟨reports, answered, -, -, matching⟩, -, -, -, -, -, lost⟩ :=
    shared_walk_is_undisturbed look 0 "created" access host rfl reachable direct
  obtain ⟨command, member, isBreakDown⟩ := List.any_eq_true.mp breaks
  obtain rfl : command = .breakDown := by cases command <;> first | rfl | cases isBreakDown
  have outcomes : walk.value.toOption.map
      (·.map fun report => (report.key, report.result)) =
        some [("dock", .ok (.matched true)), ("panel", .ok (.unmatched (some false))),
          ("shell", .ok (.matched false))] := by decide +kernel
  refine ⟨reachable, direct, ⟨reports, answered, matching, ?_⟩, by decide +kernel,
    lost member 3 .shared _⟩
  rw [show walk.value = .ok reports from answered] at outcomes
  exact Option.some.inj outcomes

end Host

end ActiveRules
