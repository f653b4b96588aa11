import ActiveRules.Registry.Basic

/-!
# The shared registry

All parts of a host share one registry.  It is handed out to one holder at a time, who gives it
back; a holder that breaks down while holding it leaves it unavailable, from then on and for
everyone.

## Main definitions

* `SharedRegistry`: the registry that is shared, which may be held by somebody, or nothing once it
  is unavailable.
* `SharedRegistry.acquire`, `SharedRegistry.release`, `SharedRegistry.abandon`: what a holder does.
* `SharedRegistry.hold`: a computation that holds the registry.
* `SharedRegistry.IsFree`: nobody holds the registry.

## Design notes

The registry is there, and empty, before anybody asks for it.  No event tells that it was made.
-/

namespace ActiveRules

/-- The registry that all parts of a host share. -/
inductive SharedRegistry (C A : Type) where
  | available (registry : Registry C A)
  /-- Somebody holds the registry. -/
  | held (registry : Registry C A)
  /-- Somebody broke down while holding the registry. -/
  | unavailable

/-- Why somebody does not get hold of the shared registry. -/
inductive Refusal where
  | held
  | unavailable
deriving DecidableEq

namespace SharedRegistry

variable {B C A : Type}

/-- Nobody holds the registry, which may be unavailable. -/
def IsFree (shared : SharedRegistry C A) : Prop := ∀ registry, shared ≠ held registry

/-- The events of asking for the registry: a warning if it is unavailable. -/
def events : SharedRegistry C A → List Event
  | available _ | held _ => []
  | unavailable => [.registryUnavailable]

/-- What comes of asking for the registry, which is held from then on. -/
def acquire : SharedRegistry C A → Except Refusal (Registry C A) × SharedRegistry C A
  | available registry => (.ok registry, held registry)
  | held registry => (.error .held, held registry)
  | unavailable => (.error .unavailable, unavailable)

/-- The holder gives the registry back, which may have changed. -/
def release (shared : SharedRegistry C A) (changed : Registry C A) : SharedRegistry C A :=
  match shared with
  | held _ => available changed
  | other => other

/-- The holder breaks down. -/
def abandon : SharedRegistry C A → SharedRegistry C A
  | held _ => unavailable
  | other => other

/-- A computation that takes hold of the registry, may change it, and gives it back.  It does not
take place if the registry is refused. -/
def hold (shared : SharedRegistry C A) (use : Registry C A → B × Registry C A) :
    Except Refusal B × SharedRegistry C A :=
  match shared.acquire with
  | (.ok registry, taken) =>
    let (answer, changed) := use registry
    (.ok answer, taken.release changed)
  | (.error refusal, same) => (.error refusal, same)

end SharedRegistry

end ActiveRules
