import ActiveRules.Registry.Program
import Mathlib.Data.List.Forall2
import Mathlib.Data.List.Induction
import Mathlib.Data.List.Nodup

/-!
# Registries are ordered maps

A registry is a map from keys to registrations that remembers the order in which these were
accepted, and that keeps with each of them the rule that its text was parsed as.

## Main definitions

* `Registration.StoredAs`: what an accepted registration is stored as.
* `Registry.Sound`: distinct keys, and a parsed rule with every registration.
* `Registry.Reachable`: the registries that registering and unregistering lead to.
* `Registry.RegisterLaw`, `Registry.UnregisterLaw`: what the two operations come to.
* `Registry.IsOrderedMapOf`: a registry is a map of accepted registrations, in their order.
* `survivors`: the registrations of a history that were accepted and not undone since.

## Main statements

* `Registry.registerLaw`, `Registry.unregisterLaw`: the laws of the operations.
* `Registry.Reachable.sound`: every reachable registry is sound.
* `Host.survivors_own`: what a registry has is what its history has left.
* `Host.own_registry_is_ordered_map`: all this for the histories of a host.
-/

namespace ActiveRules

variable {C A : Type}

/-! ## Registrations -/

/-- The registration has a callback for a condition that holds, its text is a header, and its rule
is made of that header and its callbacks. -/
def Registration.IsCompiled (registration : Registration C A) : Prop :=
  ∃ onMatch header, registration.onMatch = some onMatch ∧
    Header.parse registration.text = .ok header ∧
    registration.rule = some ⟨header, onMatch, registration.onMismatch⟩

/-- An accepted registration is stored as it is, except that it has its rule then. -/
structure Registration.StoredAs (registration stored : Registration C A) : Prop where
  text : stored.text = registration.text
  onMatch : stored.onMatch = registration.onMatch
  onMismatch : stored.onMismatch = registration.onMismatch
  access : stored.access = registration.access
  isCompiled : stored.IsCompiled

/-- An entry is that of a registration accepted under the same key. -/
def IsEntryOf (accepted entry : String × Registration C A) : Prop :=
  entry.1 = accepted.1 ∧ accepted.2.StoredAs entry.2

namespace Registration

/-- Compiling a registration has three outcomes. -/
theorem compile_cases (registration : Registration C A) (key : String) :
    (registration.onMatch = none ∧ registration.compile key = .error (.missingCallback key)) ∨
    (registration.onMatch ≠ none ∧ ∃ diagnostic,
      Header.parse registration.text = .error diagnostic ∧
      registration.compile key = .error (.unreadable key diagnostic)) ∨
    (registration.onMatch ≠ none ∧ ∃ header stored,
      Header.parse registration.text = .ok header ∧ registration.compile key = .ok stored ∧
      registration.StoredAs stored) := by
  unfold compile
  cases hasCallback : registration.onMatch with
  | none => exact .inl ⟨rfl, rfl⟩
  | some onMatch =>
    cases parsed : Header.parse registration.text with
    | error diagnostic => exact .inr (.inl ⟨Option.some_ne_none _, diagnostic, rfl, rfl⟩)
    | ok header =>
      refine .inr (.inr ⟨Option.some_ne_none _, header, _, rfl, rfl, ?_⟩)
      exact ⟨rfl, hasCallback.symm, rfl, rfl, onMatch, header, rfl, parsed, rfl⟩

end Registration

/-! ## Operations -/

namespace Registry

variable {registry : Registry C A} {key : String}

/-- The keys of a registry, in the order of its entries. -/
def keys (registry : Registry C A) : List String := registry.entries.map Prod.fst

/-- The keys are distinct, and every registration has the rule that its text was parsed as. -/
structure Sound (registry : Registry C A) : Prop where
  distinct : registry.keys.Nodup
  compiled : ∀ entry ∈ registry.entries, entry.2.IsCompiled

/-- The registries that registering and unregistering lead to. -/
inductive Reachable : Registry C A → Prop where
  | empty : Reachable empty
  | register {registry : Registry C A} (earlier : Reachable registry) (key : String)
      (registration : Registration C A) : Reachable (registry.register key registration).2
  | unregister {registry : Registry C A} (earlier : Reachable registry) (key : String) :
      Reachable (registry.unregister key).2

/-- Registering is refused for one of three reasons, of which the first that applies is given, and
then nothing changes.  Otherwise the registration is stored behind all others. -/
structure RegisterLaw (registry : Registry C A) (key : String) (registration : Registration C A) :
    Prop where
  duplicate : (registry.register key registration).1 = .error (.duplicateKey key) ↔
    key ∈ registry.keys
  missing : (registry.register key registration).1 = .error (.missingCallback key) ↔
    key ∉ registry.keys ∧ registration.onMatch = none
  unreadable (diagnostic : Diagnostic) :
    (registry.register key registration).1 = .error (.unreadable key diagnostic) ↔
      key ∉ registry.keys ∧ registration.onMatch ≠ none ∧
        Header.parse registration.text = .error diagnostic
  accepted : (registry.register key registration).1 = .ok () ↔
    key ∉ registry.keys ∧ registration.onMatch ≠ none ∧
      ∃ header, Header.parse registration.text = .ok header
  unchanged : (registry.register key registration).1 ≠ .ok () →
    (registry.register key registration).2 = registry
  stored : (registry.register key registration).1 = .ok () →
    ∃ stored, registration.StoredAs stored ∧
      (registry.register key registration).2.entries = registry.entries ++ [(key, stored)]

/-- Unregistering answers and removes exactly the registration under its key. -/
structure UnregisterLaw (registry : Registry C A) (key : String) : Prop where
  answer (stored : Registration C A) :
    (registry.unregister key).1 = some stored ↔ (key, stored) ∈ registry.entries
  rest : (registry.unregister key).2.entries =
    registry.entries.filter fun entry => entry.1 != key
  absent : key ∉ registry.keys → registry.unregister key = (none, registry)

/-- The registry is a map of its keys, whose entries are those of the given registrations, in the
same order.  It can be asked for what it has, and it can be changed by its two operations. -/
structure IsOrderedMapOf (registry : Registry C A) (accepted : List (String × Registration C A)) :
    Prop where
  distinct : registry.keys.Nodup
  entries : List.Forall₂ IsEntryOf accepted registry.entries
  compiled : ∀ entry ∈ registry.entries, entry.2.IsCompiled
  found (key : String) (stored : Registration C A) :
    registry.get? key = some stored ↔ (key, stored) ∈ registry.entries
  size : registry.size = accepted.length
  isEmpty : registry.isEmpty = true ↔ accepted = []
  registering (key : String) (registration : Registration C A) :
    registry.RegisterLaw key registration
  unregistering (key : String) : registry.UnregisterLaw key

theorem isSome_get?_iff : (registry.get? key).isSome = true ↔ key ∈ registry.keys := by
  rw [get?, List.lookup_isSome_iff, keys, List.mem_map]
  exact exists_congr fun entry => and_congr_right fun _ => ⟨fun same => (eq_of_beq same).symm,
    fun same => beq_iff_eq.mpr same.symm⟩

theorem get?_eq_none_iff : registry.get? key = none ↔ key ∉ registry.keys := by
  rw [← isSome_get?_iff, Bool.not_eq_true, Option.isSome_eq_false_iff, Option.isNone_iff_eq_none]

/-- Looking up a key finds the registration under it. -/
theorem get?_eq_some_iff (distinct : registry.keys.Nodup) {stored : Registration C A} :
    registry.get? key = some stored ↔ (key, stored) ∈ registry.entries := by
  rw [get?, List.lookup_eq_some_iff]
  constructor
  · rintro ⟨front, back, parts, -⟩
    rw [parts]
    exact List.mem_append_right front List.mem_cons_self
  · intro member
    obtain ⟨front, back, parts⟩ := List.append_of_mem member
    refine ⟨front, back, parts, fun entry before => bne_iff_ne.mpr fun same => ?_⟩
    rw [keys, parts, List.map_append, List.map_cons] at distinct
    exact (List.nodup_append.mp distinct).2.2 entry.1 (List.mem_map_of_mem before) key
      List.mem_cons_self same.symm

/-- The law of registering needs nothing of the registry. -/
theorem registerLaw (registry : Registry C A) (key : String) (registration : Registration C A) :
    registry.RegisterLaw key registration := by
  by_cases taken : key ∈ registry.keys
  · have refused : registry.register key registration = (.error (.duplicateKey key), registry) := by
      rw [register, if_pos (isSome_get?_iff.mpr taken)]
    constructor <;> simp [refused, taken]
  · have free := isSome_get?_iff.not.mpr taken
    rcases registration.compile_cases key with ⟨noCallback, outcome⟩ |
      ⟨callback, diagnostic, parsed, outcome⟩ |
      ⟨callback, header, stored, parsed, outcome, isStored⟩
    · constructor <;> simp [register, free, outcome, taken, noCallback]
    · constructor <;> simp [register, free, outcome, taken, callback, parsed]
    · constructor <;> simp [register, free, outcome, taken, callback, parsed, isStored]

/-- Taking out the entry under a key leaves the entries under other keys. -/
theorem eraseP_eq_filter {A : Type} {entries : List (String × A)}
    (distinct : (entries.map Prod.fst).Nodup) (key : String) :
    (entries.eraseP fun entry => entry.1 == key) = entries.filter fun entry => entry.1 != key := by
  induction entries with
  | nil => rfl
  | cons entry rest ih =>
    obtain ⟨notBehind, later⟩ := List.nodup_cons.mp distinct
    rw [List.eraseP_cons, List.filter_cons]
    by_cases here : entry.1 = key
    · have others : ∀ other ∈ rest, (other.1 != key) = true := fun other member =>
        bne_iff_ne.mpr fun same => notBehind (here ▸ same ▸ List.mem_map_of_mem member)
      simp [here, List.filter_eq_self.mpr others]
    · have different : (entry.1 == key) = false := beq_eq_false_iff_ne.mpr here
      simp [different, bne, ih later]

/-- Unregistering takes out the entry under a key, and nothing else. -/
theorem unregisterLaw (distinct : registry.keys.Nodup) (key : String) :
    registry.UnregisterLaw key where
  answer _ := get?_eq_some_iff distinct
  rest := eraseP_eq_filter distinct key
  absent := fun missing => by
    have others : ∀ entry ∈ registry.entries, ¬ (entry.1 == key) = true := fun entry member same =>
      missing (eq_of_beq same ▸ List.mem_map_of_mem member)
    rw [unregister, get?_eq_none_iff.mpr missing, List.eraseP_of_forall_not others]

theorem Sound.empty : (empty : Registry C A).Sound where
  distinct := List.nodup_nil
  compiled := fun _ member => absurd member List.not_mem_nil

/-- Registering keeps a registry sound. -/
theorem Sound.register (sound : registry.Sound) (key : String) (registration : Registration C A) :
    (registry.register key registration).2.Sound := by
  have law := registry.registerLaw key registration
  by_cases accepted : (registry.register key registration).1 = .ok ()
  · obtain ⟨stored, isStored, entries⟩ := law.stored accepted
    constructor
    · rw [keys, entries, List.map_append, List.map_singleton]
      refine List.nodup_append.mpr ⟨sound.distinct, List.nodup_singleton key, ?_⟩
      intro other taken new isNew same
      rw [same, List.mem_singleton.mp isNew] at taken
      exact (law.accepted.mp accepted).1 taken
    · intro entry member
      rw [entries] at member
      rcases List.mem_append.mp member with before | new
      · exact sound.compiled entry before
      · rw [List.mem_singleton.mp new]
        exact isStored.isCompiled
  · rw [law.unchanged accepted]
    exact sound

/-- Unregistering keeps a registry sound. -/
theorem Sound.unregister (sound : registry.Sound) (key : String) :
    (registry.unregister key).2.Sound := by
  have rest := (unregisterLaw sound.distinct key).rest
  constructor
  · rw [keys, rest]
    exact sound.distinct.sublist (List.filter_sublist.map Prod.fst)
  · intro entry member
    rw [rest] at member
    exact sound.compiled entry (List.mem_of_mem_filter member)

theorem Sound.isOrderedMapOf (sound : registry.Sound) {accepted : List (String × Registration C A)}
    (matching : List.Forall₂ IsEntryOf accepted registry.entries) :
    registry.IsOrderedMapOf accepted where
  distinct := sound.distinct
  entries := matching
  compiled := sound.compiled
  found _ _ := get?_eq_some_iff sound.distinct
  size := matching.length_eq.symm
  isEmpty := by
    rw [isEmpty, List.isEmpty_iff_length_eq_zero, ← matching.length_eq, List.length_eq_zero_iff]
  registering := registry.registerLaw
  unregistering := unregisterLaw sound.distinct

/-- Every registry that its operations lead to is sound. -/
theorem Reachable.sound (reachable : registry.Reachable) : registry.Sound := by
  induction reachable with
  | empty => exact Sound.empty
  | register _ key registration ih => exact ih.register key registration
  | unregister _ key ih => exact ih.unregister key

/-- Every entry of a sound registry has its rule. -/
theorem Sound.ruled (sound : registry.Sound) : ∀ entry ∈ registry.entries, entry.2.rule.isSome := by
  intro entry member
  obtain ⟨onMatch, header, -, -, made⟩ := sound.compiled entry member
  rw [made, Option.isSome_some]

end Registry

/-! ## Histories -/

/-- Is this one of the two commands that change a registry? -/
def Command.isUpdate : Command A → Bool
  | .register .. => true
  | .unregister .. => true
  | _ => false

/-- Does the command take the entry under a key out of a registry? -/
def Command.removes (key : String) : Command A → Bool
  | .unregister other => other == key
  | _ => false

/-- The registration that a command adds to a registry, by its reply. -/
def Command.adds? : Command A → Reply (Callback A) A → Option (String × Registration (Callback A) A)
  | .register key registration, .registered (.ok ()) => some (key, registration)
  | _, _ => none

/-- The registrations of a history that were accepted and that no later command undoes, oldest
first. -/
def survivors :
    List (Command A × Reply (Callback A) A) → List (String × Registration (Callback A) A)
  | [] => []
  | (command, reply) :: later =>
    match command.adds? reply with
    | none => survivors later
    | some (key, registration) =>
      if later.any (·.1.removes key) then survivors later
      else (key, registration) :: survivors later

/-- One more command undoes what it removes and adds what it adds. -/
theorem survivors_concat (history : List (Command A × Reply (Callback A) A)) (command : Command A)
    (reply : Reply (Callback A) A) :
    survivors (history ++ [(command, reply)]) =
      (survivors history).filter (fun entry => !command.removes entry.1) ++
        (command.adds? reply).toList := by
  induction history with
  | nil =>
    simp only [List.nil_append, survivors, List.filter_nil]
    cases command.adds? reply <;> rfl
  | cons earlier history ih =>
    obtain ⟨other, answer⟩ := earlier
    rw [List.cons_append, survivors, survivors]
    cases other.adds? answer with
    | none => exact ih
    | some entry =>
      simp only [List.any_append, List.any_cons, List.any_nil, Bool.or_false]
      cases history.any (·.1.removes entry.1) with
      | true => exact ih
      | false => cases removed : command.removes entry.1 <;> simp [removed, ih]

namespace Host

/-- Commands behind others are carried out on what these leave. -/
theorem inOrder_append (step : Performer A) (front back : List (Command A))
    (host : Host A) :
    inOrder step (front ++ back) host =
      let run := inOrder step front host
      let later := inOrder step back run.state
      ⟨run.value ++ later.value, [], run.log ++ later.log, later.state⟩ := by
  induction front generalizing host with
  | nil => cases back <;> rfl
  | cons command front ih =>
    rw [List.cons_append, inOrder, ih]
    simp only [inOrder, List.cons_append, List.append_assoc]

@[simp]
theorem length_inOrder (step : Performer A) (commands : List (Command A))
    (host : Host A) : (inOrder step commands host).value.length = commands.length := by
  induction commands generalizing host with
  | nil => rfl
  | cons command rest ih => exact congrArg Nat.succ (ih _)

variable {look : A → Host A → Access} {depth : Nat} {commands : List (Command A)}

/-- One more command of a host's own registry. -/
theorem performAll_concat (commands : List (Command A)) (command : Command A) (host : Host A) :
    performAll look depth .own (commands ++ [command]) host =
      let run := performAll look depth .own commands host
      let last := perform look depth .own command run.state
      ⟨run.value ++ [last.value], [], run.log ++ last.log, last.state⟩ := by
  rw [performAll, inOrder_append]
  simp only [inOrder, List.append_nil, performAll]

theorem perform_register (key : String) (registration : Registration (Callback A) A)
    (host : Host A) :
    perform look (depth + 1) .own (.register key registration) host =
      ⟨.registered (host.own.register key registration).1, [],
        Registry.registerEvents key (host.own.register key registration).1,
        { host with own := (host.own.register key registration).2 }⟩ := rfl

theorem perform_unregister (key : String) (host : Host A) :
    perform look (depth + 1) .own (.unregister key) host =
      ⟨.entry (host.own.unregister key).1, [], [],
        { host with own := (host.own.unregister key).2 }⟩ := rfl

/-- One update undoes what it removes and adds what it adds. -/
theorem own_perform {command : Command A} (isUpdate : command.isUpdate = true) {host : Host A}
    (reachable : host.own.Reachable) {accepted : List (String × Registration (Callback A) A)}
    (matching : List.Forall₂ IsEntryOf accepted host.own.entries) :
    let last := perform look (depth + 1) .own command host
    last.state.own.Reachable ∧ List.Forall₂ IsEntryOf
      (accepted.filter (fun entry => !command.removes entry.1) ++
        (command.adds? last.value).toList)
      last.state.own.entries := by
  cases command with
  | register key registration =>
    have law := host.own.registerLaw key registration
    have all : accepted.filter (fun entry =>
        !(Command.register key registration).removes entry.1) = accepted :=
      List.filter_eq_self.mpr fun _ _ => rfl
    rw [perform_register, all]
    refine ⟨reachable.register key registration, ?_⟩
    cases outcome : (host.own.register key registration).1 with
    | ok _ =>
      obtain ⟨stored, isStored, entries⟩ := law.stored outcome
      have new : List.Forall₂ IsEntryOf [(key, registration)] [(key, stored)] :=
        .cons ⟨rfl, isStored⟩ .nil
      simp only [entries]
      exact List.rel_append matching new
    | error fault =>
      have refused : (host.own.register key registration).1 ≠ .ok () := by
        rw [outcome]
        exact nofun
      simp only [law.unchanged refused, Command.adds?, Option.toList_none, List.append_nil]
      exact matching
  | unregister key =>
    have rest := (Registry.unregisterLaw reachable.sound.distinct key).rest
    rw [perform_unregister]
    refine ⟨reachable.unregister key, ?_⟩
    simp only [rest, Command.adds?, Option.toList_none, List.append_nil]
    refine List.rel_filter (fun one other same => ?_) matching
    show (!(key == one.1)) = true ↔ (other.1 != key) = true
    rw [same.1, bne_comm]
    rfl
  | _ => cases isUpdate

/-- What the registry of a host has is what its history has left, in the same order. -/
theorem survivors_own (depth : Nat) (updates : ∀ command ∈ commands, command.isUpdate = true) :
    let run := performAll look (depth + 1) .own commands .start
    run.state.own.Reachable ∧
      List.Forall₂ IsEntryOf (survivors (commands.zip run.value)) run.state.own.entries := by
  -- What a command undoes lies before it, so histories grow at their end.
  induction commands using List.reverseRecOn with
  | nil => exact ⟨.empty, .nil⟩
  | append_singleton commands command ih =>
    obtain ⟨reachable, matching⟩ := ih fun other member => updates other (by simp [member])
    have length :
        commands.length = (performAll look (depth + 1) .own commands .start).value.length :=
      (length_inOrder _ _ _).symm
    simp only [performAll_concat, List.zip_append length, List.zip_cons_cons, List.zip_nil_right,
      survivors_concat]
    exact own_perform (updates command (by simp)) reachable matching

/-- An update leaves the snapshots that a host has kept. -/
theorem kept_perform (look : A → Host A → Access) (depth : Nat) {command : Command A}
    (isUpdate : command.isUpdate = true) (host : Host A) :
    (perform look (depth + 1) .own command host).state.kept = host.kept := by
  cases command with
  | register key registration => rfl
  | unregister key => rfl
  | _ => cases isUpdate

theorem kept_performAll (updates : ∀ command ∈ commands, command.isUpdate = true) (host : Host A) :
    (performAll look (depth + 1) .own commands host).state.kept = host.kept := by
  induction commands generalizing host with
  | nil => rfl
  | cons command rest ih =>
    have front := kept_perform look depth (updates command List.mem_cons_self) host
    exact (ih (fun other member => updates other (List.mem_cons_of_mem command member)) _).trans
      front

/-- A snapshot is recalled as it was kept, whatever updates there were since. -/
theorem recall_performAll {name : String}
    (updates : ∀ command ∈ commands, command.isUpdate = true) (host : Host A) :
    (performAll look (depth + 1) .own (.keep name :: commands ++ [.recall name])
      host).value.getLast? = some (.entries host.own) := by
  have kept : (performAll look (depth + 1) .own (.keep name :: commands) host).state.kept =
      (name, host.own) :: host.kept :=
    kept_performAll updates { host with kept := (name, host.own) :: host.kept }
  rw [performAll_concat, List.getLast?_concat]
  simp only [perform, kept, List.lookup_cons_self]

/-- The registry of a host is an ordered map of the registrations that its history has left, and it
answers as one.  Snapshots of it stay as they are. -/
theorem own_registry_is_ordered_map (look : A → Host A → Access) (depth : Nat)
    (commands : List (Command A)) (updates : ∀ command ∈ commands, command.isUpdate = true) :
    let perform := performAll look (depth + 1) .own
    let run := perform commands .start
    let registry := run.state.own
    registry.IsOrderedMapOf (survivors (commands.zip run.value)) ∧
    (∀ key, (perform [.get key, .count, .enumerate] run.state).value =
      [.entry (registry.get? key), .count registry.size, .entries registry]) ∧
    ∀ name later, (∀ command ∈ later, command.isUpdate = true) →
      (perform (.keep name :: later ++ [.recall name]) run.state).value.getLast? =
        some (.entries registry) := by
  obtain ⟨reachable, matching⟩ := survivors_own depth updates
  exact ⟨reachable.sound.isOrderedMapOf matching, fun _ => rfl,
    fun _ _ later => recall_performAll later _⟩

/-- A key that is registered again goes to the end; in between, a taken key, a missing callback and
a text that is no header are refused. -/
theorem own_registry_moves_key_registered_again :
    let look : PropertyTable → Host PropertyTable → Access := fun table _ => table.access
    let answer : Callback PropertyTable := .answer true
    let onCreated : Registration (Callback PropertyTable) PropertyTable :=
      ⟨"on created", some answer, none, none, none⟩
    let commands : List (Command PropertyTable) := [.register "dock" onCreated,
      .register "panel" { onCreated with onMismatch := some answer },
      .register "dock" { onCreated with onMatch := none },
      .register "shell" { onCreated with onMatch := none, text := "created" },
      .register "shell" { onCreated with text := "created" },
      .unregister "dock", .unregister "dock", .register "dock" onCreated]
    let run := performAll look 1 .own commands .start
    let accepted := survivors (commands.zip run.value)
    (∀ command ∈ commands, command.isUpdate = true) ∧
    accepted.map (fun entry => (entry.1, entry.2.onMismatch.isSome)) =
      [("panel", true), ("dock", false)] ∧
    run.state.own.keys = ["panel", "dock"] ∧
    run.state.own.IsOrderedMapOf accepted := by
  intro look answer onCreated commands run accepted
  have updates : ∀ command ∈ commands, command.isUpdate = true := by decide
  obtain ⟨isMap, -⟩ := own_registry_is_ordered_map look 0 commands updates
  rw [Nat.zero_add] at isMap
  exact ⟨updates, by decide +kernel, by decide +kernel, isMap⟩

end Host

end ActiveRules
