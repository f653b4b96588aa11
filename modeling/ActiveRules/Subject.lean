import ActiveRules.Event

/-!
# Subjects of rules

Conditions read properties of a subject, and actions change it.  The library does not fix what a
subject is: a host gives an access to read it and an executor to act on it.

## Main definitions

* `Access`: how properties are read, and what reading one has to tell.
* `PropertyTable`: a subject that is plain data.
* `Executor`: how actions are carried out on a state.
* `Recorder`: a state that only keeps the actions it was asked for.
* `Run`: what a computation on a state answers, reads and tells, and the state it leaves.
-/

namespace ActiveRules

/-- How the properties of a subject are read.  Reading never changes the subject. -/
structure Access where
  /-- The value of a property. -/
  read : String → Except ReadFault Value
  /-- The events that reading a property gives rise to. -/
  events : String → List Event := fun _ => []

/-- The access before any subject is bound. -/
def Access.unbound : Access where
  read _ := .error .unbound

/-- Properties that are plain data: the latest value of each name that was set. -/
structure PropertyTable where
  entries : List (String × Value)

namespace PropertyTable

/-- No property at all. -/
def empty : PropertyTable := ⟨[]⟩

/-- The table with one property set. -/
def set (table : PropertyTable) (property : String) (value : Value) : PropertyTable :=
  ⟨(property, value) :: table.entries⟩

/-- The value that a property was set to last. -/
def value? (table : PropertyTable) (property : String) : Option Value :=
  table.entries.lookup property

/-- Reading properties that are plain data. -/
def access (table : PropertyTable) : Access where
  read property :=
    match table.value? property with
    | some value => .ok value
    | none => .error (.unknownProperty property)

end PropertyTable

/-- What one action came to: whether it was accepted, the events on the way, and the state it
leaves. -/
structure Execution (S : Type) where
  result : Except ActionFault Unit
  log : List Event
  state : S

/-- How actions are carried out: by name and arguments, on a state. -/
abbrev Executor (S : Type) := String → List Value → S → Execution S

/-- The executor before any subject is bound. -/
def Executor.unbound {S : Type} : Executor S := fun _ _ state => ⟨.error .unbound, [], state⟩

/-- An executor for a part of a state carries over to the whole. -/
def Executor.within {S T : Type} (part : T → S) (replace : S → T → T) (executor : Executor S) :
    Executor T := fun name arguments whole =>
  let execution := executor name arguments (part whole)
  ⟨execution.result, execution.log, replace execution.state whole⟩

/-- The actions that an executor was asked for, in order. -/
structure Recorder where
  calls : List (String × List Value)

/-- Records every action and refuses those with certain names. -/
def Recorder.execute (refused : List String) : Executor Recorder :=
  fun name arguments recorder =>
    ⟨if refused.contains name then .error (.unknownAction name) else .ok (), [],
      ⟨recorder.calls ++ [(name, arguments)]⟩⟩

/-- What a computation on a state answers, which properties it reads, which events it gives rise
to, and the state it leaves. -/
structure Run (S A : Type) where
  value : A
  reads : List String
  log : List Event
  state : S

end ActiveRules
