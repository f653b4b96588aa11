import ActiveRules.Registry.Dialogue
import ActiveRules.Registry.Inspection
import ActiveRules.Registry.Shared

/-!
# Programs on registries

A host works on registries by commands, and so do the callbacks of the lambda rules in them.
Callbacks are given as dialogues, in which they give one command after the other and go by the
replies, so that a registry is plain data even though the callbacks in it can change the shared
registry while that is being walked.

## Main definitions

* `Reply`: what a command answers.
* `Command`, `Callback`: what can be asked of a registry, and what a callback does.
* `Note`: what can be seen of callbacks while they run.
* `Host`: a registry of the host's own, the shared one, and the snapshots that were kept.
* `Host.applyPresent`: a registry applied while callbacks may change it.
* `Host.perform`: one command carried out.
* `Host.performAll`: commands carried out in order.

## Design notes

The commands of a callback always concern the shared registry.  It is not held while a callback
runs, so they take effect at once; the walk that runs the callback goes on with the entries that
were present when it began.

Accesses are named by values of a type `A`, and `look` tells how properties are read through one
when a host is in a certain state.

Callbacks can set off further callbacks without end.  `Host.perform` therefore takes the depth to
which callbacks and walks may be nested; a command beyond it is not carried out.
-/

namespace ActiveRules

variable {A B C D : Type}

/-- What a command answers, where registrations have callbacks of the type `C`.  A walk answers, for
each entry, its key, its text, and the replies to the commands that were carried out for it. -/
inductive Reply (C A : Type) where
  | registered (result : Except RegistrationFault Unit)
  | entry (entry : Option (Registration C A))
  | inspection (shown : Option String)
  | count (size : Nat)
  | entries (registry : Registry C A)
  | applied (reports : Except Refusal (List EntryReport)) (reads : List String)
  | keptApplied (reports : List EntryReport)
  | visits (visits : List (String × String × List (Reply C A)))
  | broken
  | done
  | refused (refusal : Refusal)
  | tooDeep

namespace Reply

/-- The refusal of a command is a reply too. -/
def ofResult : Except Refusal (Reply C A) → Reply C A
  | .ok reply => reply
  | .error refusal => refused refusal

mutual

/-- The reply with the callbacks in it replaced. -/
def map (f : C → D) : Reply C A → Reply D A
  | registered result => registered result
  | entry found => entry (found.map (.map f))
  | inspection shown => inspection shown
  | count size => count size
  | entries registry => entries (registry.map f)
  | applied reports reads => applied reports reads
  | keptApplied reports => keptApplied reports
  | visits all => visits (mapVisits f all)
  | broken => broken
  | done => done
  | refused refusal => refused refusal
  | tooDeep => tooDeep

def mapVisits (f : C → D) :
    List (String × String × List (Reply C A)) → List (String × String × List (Reply D A))
  | [] => []
  | (key, text, replies) :: rest => (key, text, mapAll f replies) :: mapVisits f rest

def mapAll (f : C → D) : List (Reply C A) → List (Reply D A)
  | [] => []
  | reply :: rest => reply.map f :: mapAll f rest

end

/-- What a callback learns of a reply: everything but what the callbacks in it do. -/
def seen : Reply C A → Reply Unit A := map fun _ => ()

end Reply

/-- What can be asked of a registry. -/
inductive Command (A : Type) where
  | register (key : String)
      (registration : Registration (Dialogue (Command A) (Reply Unit A)) A)
  | unregister (key : String)
  | get (key : String)
  | inspect (key : String)
  | count
  | enumerate
  | applyAll (signal : String) (access : A)
  | keep (name : String)
  | recall (name : String)
  | applyKept (name : String) (signal : String) (access : A)
  | walk (commands : List (Command A))
  | breakDown

/-- What a callback does: commands on the shared registry, and then an answer. -/
abbrev Callback (A : Type) := Dialogue (Command A) (Reply Unit A)

/-- Which registry a command concerns: the host's own, or the shared one. -/
inductive Scope where
  | own
  | shared
deriving DecidableEq

/-- What can be seen of callbacks while they run: that one is started, because the condition of
the entry under a key holds or does not hold, and the replies to its commands. -/
inductive Note (A : Type) where
  | started (holds : Bool) (key : String)
  | replied (reply : Reply (Callback A) A)

/-- What a host has: a registry of its own, the shared one, snapshots under names, and what was
seen of callbacks so far. -/
structure Host (A : Type) where
  own : Registry (Callback A) A
  shared : SharedRegistry (Callback A) A
  kept : List (String × Registry (Callback A) A)
  notes : List (Note A)

/-- A host at its start: both registries are empty. -/
def Host.start : Host A := ⟨.empty, .available .empty, [], []⟩

/-- A text with another one in the place of every pair of braces. -/
def Command.fillText (filling : List Char) : List Char → List Char
  | '\x7b' :: '\x7d' :: rest => filling ++ fillText filling rest
  | c :: rest => c :: fillText filling rest
  | [] => []

/-- A command of a walk, made for an entry: a pair of braces in its key stands for the entry's. -/
def Command.fill (key : String) : Command A → Command A
  | register pattern registration => .register (filled pattern) registration
  | unregister pattern => .unregister (filled pattern)
  | get pattern => .get (filled pattern)
  | inspect pattern => .inspect (filled pattern)
  | command => command
where
  filled (pattern : String) : String := .ofList (fillText key.toList pattern.toList)

/-- How a host carries out a command. -/
abbrev Performer (A : Type) := Command A → Host A → Run (Host A) (Reply (Callback A) A)

namespace Host

/-- The host with one more note. -/
def note (host : Host A) (note : Note A) : Host A := { host with notes := host.notes ++ [note] }

/-- A computation that takes hold of the registry of a scope and gives it back. -/
def hold (host : Host A) (scope : Scope)
    (use : Registry (Callback A) A → (B × List Event) × Registry (Callback A) A) :
    Run (Host A) (Except Refusal B) :=
  match scope with
  | .own =>
    let ((answer, log), changed) := use host.own
    ⟨.ok answer, [], log, { host with own := changed }⟩
  | .shared =>
    match host.shared.hold use with
    | (.ok (answer, log), changed) => ⟨.ok answer, [], log, { host with shared := changed }⟩
    | (.error refusal, same) =>
      ⟨.error refusal, [], host.shared.events, { host with shared := same }⟩

/-- A command that holds the registry of a scope. -/
def holdFor (host : Host A) (scope : Scope)
    (use : Registry (Callback A) A →
      (Reply (Callback A) A × List Event) × Registry (Callback A) A) :
    Run (Host A) (Reply (Callback A) A) :=
  let run := host.hold scope use
  ⟨.ofResult run.value, [], run.log, run.state⟩

/-- A copy of the registry of a scope, which is held only while the copy is made. -/
def snapshot (host : Host A) (scope : Scope) :
    Run (Host A) (Except Refusal (Registry (Callback A) A)) :=
  host.hold scope fun registry => ((registry, []), registry)

/-- Carries out commands in order. -/
def inOrder (step : Performer A) :
    List (Command A) → Host A → Run (Host A) (List (Reply (Callback A) A))
  | [], host => ⟨[], [], [], host⟩
  | command :: rest, host =>
    let run := step command host
    let later := inOrder step rest run.state
    ⟨run.value :: later.value, [], run.log ++ later.log, later.state⟩

/-- Carries out a command of a callback, whose reply is noted. -/
def noted (step : Performer A) : Performer A := fun command host =>
  let run := step command host
  ⟨run.value, [], run.log, run.state.note (.replied run.value)⟩

/-- Runs the callbacks of the entry under a key. -/
def call (step : Performer A) (key : String) : Caller (Callback A) (Host A) :=
  fun holds callback host => callback.run (noted step) Reply.seen (host.note (.started holds key))

/-- A host as a client of registries. -/
def client (look : A → Host A → Access) (step : Performer A) :
    Client (Callback A) A (Host A) where
  call := call step
  look := look

/-- Applies the entries that the registry of a scope has at the beginning.  The registry is not
held meanwhile.  The reads of the given access are answered. -/
def applyPresent (host : Host A) (client : Client (Callback A) A (Host A)) (scope : Scope)
    (signal : String) (access : Host A → Access) :
    Run (Host A) (Except Refusal (List EntryReport)) :=
  let copy := host.snapshot scope
  match copy.value with
  | .error refusal => ⟨.error refusal, [], copy.log, copy.state⟩
  | .ok registry =>
    let run := registry.applyAll client signal access copy.state
    ⟨.ok run.value, run.reads, copy.log ++ run.log, run.state⟩

/-- Carries out commands for each entry in order. -/
def visitEach (step : Performer A) (commands : List (Command A)) :
    List (String × Registration (Callback A) A) → Host A →
      Run (Host A) (List (String × String × List (Reply (Callback A) A)))
  | [], host => ⟨[], [], [], host⟩
  | (key, registration) :: rest, host =>
    let run := inOrder step (commands.map (.fill key)) host
    let later := visitEach step commands rest run.state
    ⟨(key, registration.text, run.value) :: later.value, [], run.log ++ later.log, later.state⟩

/-- Somebody takes hold of the shared registry and breaks down.  Whoever asks for it then is told
that it is unavailable. -/
def breakDown (host : Host A) : Run (Host A) (Reply (Callback A) A) :=
  match host.shared.acquire with
  | (.ok _, taken) =>
    let broken := taken.abandon
    ⟨.broken, [], broken.events, { host with shared := broken }⟩
  | (.error .held, _) => ⟨.refused .held, [], [], host⟩
  | (.error .unavailable, lost) => ⟨.broken, [], lost.events ++ lost.events, host⟩

/-- Carries out a command, in which callbacks and walks may be nested to a certain depth. -/
def perform (look : A → Host A → Access) : Nat → Scope → Performer A
  | 0, _, _, host => ⟨.tooDeep, [], [], host⟩
  | depth + 1, scope, command, host =>
    match command with
    | .register key registration =>
      host.holdFor scope fun registry =>
        let (result, changed) := registry.register key registration
        ((.registered result, Registry.registerEvents key result), changed)
    | .unregister key =>
      host.holdFor scope fun registry =>
        let (removed, changed) := registry.unregister key
        ((.entry removed, []), changed)
    | .get key => host.holdFor scope fun registry => ((.entry (registry.get? key), []), registry)
    | .inspect key =>
      host.holdFor scope fun registry =>
        ((.inspection ((registry.get? key).map Registration.inspection), []), registry)
    | .count => host.holdFor scope fun registry => ((.count registry.size, []), registry)
    | .enumerate => host.holdFor scope fun registry => ((.entries registry, []), registry)
    | .applyAll signal access =>
      let run := host.applyPresent (client look (perform look depth .shared)) scope signal
        (look access)
      ⟨.applied run.value run.reads, [], run.log, run.state⟩
    | .keep name =>
      let copy := host.snapshot scope
      match copy.value with
      | .error refusal => ⟨.refused refusal, [], copy.log, copy.state⟩
      | .ok registry =>
        ⟨.done, [], copy.log, { copy.state with kept := (name, registry) :: copy.state.kept }⟩
    | .recall name =>
      match host.kept.lookup name with
      | none => ⟨.done, [], [], host⟩
      | some registry => ⟨.entries registry, [], [], host⟩
    | .applyKept name signal access =>
      match host.kept.lookup name with
      | none => ⟨.done, [], [], host⟩
      | some registry =>
        let run := registry.applyAll (client look (perform look depth .shared)) signal
          (look access) host
        ⟨.keptApplied run.value, [], run.log, run.state⟩
    | .walk commands =>
      let copy := host.snapshot scope
      match copy.value with
      | .error refusal => ⟨.refused refusal, [], copy.log, copy.state⟩
      | .ok registry =>
        let run := visitEach (perform look depth scope) commands registry.entries copy.state
        ⟨.visits run.value, [], copy.log ++ run.log, run.state⟩
    | .breakDown => host.breakDown

/-- Carries out commands of the host in order. -/
def performAll (look : A → Host A → Access) (depth : Nat) (scope : Scope)
    (commands : List (Command A)) (host : Host A) :
    Run (Host A) (List (Reply (Callback A) A)) :=
  inOrder (perform look depth scope) commands host

end Host

end ActiveRules
