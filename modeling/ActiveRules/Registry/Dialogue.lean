import ActiveRules.Subject

/-!
# Dialogues

A dialogue is what somebody does who asks one thing after the other.  What is asked next, and the
answer in the end, may depend on all replies so far.

## Main definitions

* `Dialogue Q R`: dialogues that put queries of the type `Q` and go by replies of the type `R`.
* `Dialogue.ofList`: queries that do not depend on replies.
* `Dialogue.run`: a dialogue carried out on a state.
* `Dialogue.queries`: the queries that are put when it is carried out.
-/

namespace ActiveRules

/-- An answer right away, or a query and then a dialogue that depends on the reply. -/
inductive Dialogue (Q R : Type) where
  | answer (result : Bool)
  | ask (query : Q) (next : R → Dialogue Q R)

namespace Dialogue

variable {Q R T S : Type}

/-- Queries that are put in order, and then an answer, whatever the replies are. -/
def ofList (queries : List Q) (result : Bool) : Dialogue Q R :=
  queries.foldr (fun query next => ask query fun _ => next) (answer result)

/-- Carries out a dialogue.  Each query is put in the state that the ones before it leave, and
`see` tells what the dialogue learns of a reply. -/
def run (step : Q → S → Run S T) (see : T → R) : Dialogue Q R → S → Run S Bool
  | answer result, state => ⟨result, [], [], state⟩
  | ask query next, state =>
    let reply := step query state
    let later := (next (see reply.value)).run step see reply.state
    ⟨later.value, [], reply.log ++ later.log, later.state⟩

/-- The queries that a dialogue puts when it is carried out. -/
def queries (step : Q → S → Run S T) (see : T → R) : Dialogue Q R → S → List Q
  | answer _, _ => []
  | ask query next, state =>
    let reply := step query state
    query :: (next (see reply.value)).queries step see reply.state

end Dialogue

end ActiveRules
