import ActiveRules.LambdaRule
import ActiveRules.Reading.Text

/-!
# Registries of lambda rules

A registry keeps lambda rules under keys, in the order in which they were registered.  The text
of a rule is parsed once, when it is registered.

## Main definitions

* `Registration`: a rule text with callbacks, as a host hands it in, and its rule once it is
  accepted.
* `Registry`: registrations under distinct keys.
* `Registry.register`, `Registry.unregister`, `Registry.get?`: the operations of a registry.
* `Client`: how a host runs callbacks and reads properties.
* `Registry.applyAll`: every entry applied to a signal.

## Design notes

A registry holds callbacks and accesses as the host names them, of any types `C` and `A`.  What
they do in a state is up to a client.  An access may therefore depend on what callbacks did: each
entry is read in the state of its own turn.
-/

namespace ActiveRules

/-- A rule text with callbacks, as a host hands it in.  A registration with an access of its own
has its condition read through it.  The rule that text and callbacks make up is kept with them once
the registration is accepted. -/
structure Registration (C A : Type) where
  text : String
  onMatch : Option C
  onMismatch : Option C
  access : Option A
  rule : Option (LambdaRule C) := none

variable {C D A S : Type}

/-- The registration with its rule, which it has if there is a callback for a condition that holds
and the text is a header.  A rule that it had before does not count. -/
def Registration.compile (registration : Registration C A) (key : String) :
    Except RegistrationFault (Registration C A) :=
  match registration.onMatch with
  | none => .error (.missingCallback key)
  | some onMatch =>
    match Header.parse registration.text with
    | .error diagnostic => .error (.unreadable key diagnostic)
    | .ok header =>
      .ok { registration with rule := some ⟨header, onMatch, registration.onMismatch⟩ }

/-- The registration with its callbacks replaced. -/
def Registration.map (f : C → D) (registration : Registration C A) : Registration D A where
  text := registration.text
  onMatch := registration.onMatch.map f
  onMismatch := registration.onMismatch.map f
  access := registration.access
  rule := registration.rule.map (.map f)

/-- Registrations under keys, in the order in which they were accepted. -/
structure Registry (C A : Type) where
  entries : List (String × Registration C A)

/-- How a host that has the state `S` runs the callbacks of the entry under a key, and how it reads
properties through an access that a registration has of its own. -/
structure Client (C A S : Type) where
  call : String → Caller C S
  look : A → S → Access

/-- How properties are read for a registration: through its own access if it has one, and otherwise
through the given one. -/
def Registration.reader (registration : Registration C A) (client : Client C A S)
    (access : S → Access) : S → Access :=
  (registration.access.map client.look).getD access

/-- What came of applying the registration under a key. -/
structure EntryReport where
  key : String
  result : Except ConditionFault Outcome

namespace Registry

/-- A registry without entries. -/
def empty : Registry C A := ⟨[]⟩

/-- The number of entries. -/
def size (registry : Registry C A) : Nat := registry.entries.length

/-- Has the registry no entry? -/
def isEmpty (registry : Registry C A) : Bool := registry.entries.isEmpty

/-- The registration under a key. -/
def get? (registry : Registry C A) (key : String) : Option (Registration C A) :=
  registry.entries.lookup key

/-- What registering comes to: whether it was accepted, and the registry after it, which has the
new entry at its end.  A key that is taken is the first reason to refuse. -/
def register (registry : Registry C A) (key : String) (registration : Registration C A) :
    Except RegistrationFault Unit × Registry C A :=
  if (registry.get? key).isSome then (.error (.duplicateKey key), registry)
  else
    match registration.compile key with
    | .error fault => (.error fault, registry)
    | .ok compiled => (.ok (), ⟨registry.entries ++ [(key, compiled)]⟩)

/-- The events of a registration: a warning if it was refused. -/
def registerEvents (key : String) (result : Except RegistrationFault Unit) : List Event :=
  match result with
  | .ok () => []
  | .error fault => [.registrationRejected key fault]

/-- What unregistering comes to: the registration under a key, if there is one, and the registry
without it. -/
def unregister (registry : Registry C A) (key : String) :
    Option (Registration C A) × Registry C A :=
  (registry.get? key, ⟨registry.entries.eraseP fun entry => entry.1 == key⟩)

/-- The registry with its callbacks replaced. -/
def map (f : C → D) (registry : Registry C A) : Registry D A :=
  ⟨registry.entries.map fun entry => (entry.1, entry.2.map f)⟩

/-- Applies entries in order.  A registration with an access of its own reads through that, and
every other one through the given access, whose reads are answered.  A fault of one entry does not
affect the others, and one without a rule is passed over. -/
def applyEntries (client : Client C A S) (signal : String) (access : S → Access) :
    List (String × Registration C A) → S → Run S (List EntryReport)
  | [], state => ⟨[], [], [], state⟩
  | (key, registration) :: rest, state =>
    match registration.rule with
    | none => applyEntries client signal access rest state
    | some rule =>
      let run := rule.apply (client.call key) signal (registration.reader client access state) state
      let later := applyEntries client signal access rest run.state
      let reads := if registration.access.isSome then [] else run.reads
      let events := match run.value with
        | .ok _ => []
        | .error fault => [.lambdaRuleFailed key fault]
      ⟨⟨key, run.value⟩ :: later.value, reads ++ later.reads, run.log ++ events ++ later.log,
        later.state⟩

/-- Applies every entry to a signal, in order of registration.  The entries are those present
when the application begins, whatever the callbacks do to a registry that the state holds. -/
def applyAll (registry : Registry C A) (client : Client C A S) (signal : String)
    (access : S → Access) (state : S) : Run S (List EntryReport) :=
  applyEntries client signal access registry.entries state

end Registry

end ActiveRules
