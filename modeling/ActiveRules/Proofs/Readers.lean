import ActiveRules.Proofs.TokenKinds
import ActiveRules.Reading.Basic

/-!
# What readers accept

A reader looks at the kinds of the tokens and at nothing else.  So it stands for a partial
function from sequences of kinds to answers, and all that `Reader.read` and `Reader.looked` add to
that function is where the first refused token stands.

## Main definitions

* `follow?`: a state carried along a whole list, unless an element is refused.
* `Reader.answer?`: what a sequence of kinds is read as.

## Main statements

* `follow?_invariant`: what every step keeps true of the elements so far, a whole run keeps true.
* `Reader.read_eq_ok_iff`: reading succeeds exactly with the answer to the kinds.
* `Reader.of_read_eq_error`: a failed reading stopped in a state that refuses what comes next.
-/

namespace ActiveRules

section Runs

variable {S T X : Type} {next? : S → X → Option S}

/-- Carries a state along a whole list, unless an element is refused. -/
def follow? (next? : S → X → Option S) (state : S) (elements : List X) : Option S :=
  elements.foldlM next? state

@[simp]
theorem follow?_nil (state : S) : follow? next? state [] = some state := rfl

theorem follow?_cons (state : S) (x : X) (elements : List X) :
    follow? next? state (x :: elements) =
      (next? state x).bind fun later => follow? next? later elements := rfl

/-- An element that is not refused hands the rest of the list to its successor state. -/
theorem follow?_cons_of_next {state later : S} {x : X} (step : next? state x = some later)
    (elements : List X) : follow? next? state (x :: elements) = follow? next? later elements := by
  rw [follow?_cons, step, Option.bind_some]

theorem follow?_append (state : S) (front back : List X) :
    follow? next? state (front ++ back) =
      (follow? next? state front).bind fun later => follow? next? later back := by
  induction front generalizing state with
  | nil => rfl
  | cons x front ih =>
    rw [List.cons_append, follow?_cons, follow?_cons, Option.bind_assoc]
    congr 1
    funext later
    exact ih later

/-- A run along the front of a list hands the rest of it to the state it ends in. -/
theorem follow?_append_of_run {state later : S} {front : List X}
    (run : follow? next? state front = some later) (back : List X) :
    follow? next? state (front ++ back) = follow? next? later back := by
  rw [follow?_append, run, Option.bind_some]

/-- Steps that are matched by steps of another automaton make runs that are matched by runs. -/
theorem follow?_lift {nextUp? : T → X → Option T} (up : S → T)
    (lift : ∀ {state later : S} {x : X}, next? state x = some later →
      nextUp? (up state) x = some (up later))
    {state later : S} {elements : List X} (run : follow? next? state elements = some later) :
    follow? nextUp? (up state) elements = some (up later) := by
  induction elements generalizing state with
  | nil => cases run; rfl
  | cons x elements ih =>
    obtain ⟨middle, step, others⟩ := Option.bind_eq_some_iff.mp run
    rw [follow?_cons_of_next (lift step)]
    exact ih others

/-- What holds of a state and of the elements that led to it, and is kept by every step, holds
after a run. -/
theorem follow?_invariant {Invariant : S → List X → Prop}
    (keeps : ∀ {state later : S} {front : List X} {x : X}, Invariant state front →
      next? state x = some later → Invariant later (front ++ [x]))
    {state later : S} {front elements : List X} (initially : Invariant state front)
    (run : follow? next? state elements = some later) : Invariant later (front ++ elements) := by
  -- The front takes over what the list loses, so it is as general as the state.
  induction elements generalizing state front with
  | nil =>
    cases run
    rw [List.append_nil]
    exact initially
  | cons x elements ih =>
    obtain ⟨middle, step, others⟩ := Option.bind_eq_some_iff.mp run
    rw [List.append_cons]
    exact ih (keeps initially step) others

/-- `follow` runs along a front of its list and leaves the elements from a refused one on, or
none. -/
theorem follow_spec (next? : S → X → Option S) (state : S) (elements : List X) :
    ∃ front left later, elements = front ++ left ∧
      follow next? state elements = (later, left) ∧
      follow? next? state front = some later ∧ ∀ x ∈ left.head?, next? later x = none := by
  induction elements generalizing state with
  | nil => exact ⟨[], [], state, rfl, rfl, rfl, by simp⟩
  | cons x elements ih =>
    cases step : next? state x with
    | none => exact ⟨[], x :: elements, state, rfl, by simp [follow, step], rfl, by simp [step]⟩
    | some middle =>
      obtain ⟨front, left, later, parts, followed, run, refused⟩ := ih middle
      refine ⟨x :: front, left, later, ?_, ?_, ?_, refused⟩
      · rw [List.cons_append, ← parts]
      · simp only [follow, step, followed]
      · rw [follow?_cons_of_next step, run]

end Runs

namespace Reader

variable {R A : Type} (reader : Reader R A)

/-- The reading that a sequence of kinds leads to, unless one of them is refused. -/
def reading? (kinds : List Kind) : Option R :=
  follow? reader.next? reader.start kinds

/-- What a sequence of kinds is read as, if it is accepted. -/
def answer? (kinds : List Kind) : Option A :=
  (reader.reading? kinds).bind reader.result?

/-- Behind a front that has been read, the answer depends on the reading and the rest. -/
theorem answer?_append_of_run {reading : R} {front : List Kind}
    (run : reader.reading? front = some reading) (back : List Kind) :
    reader.answer? (front ++ back) = (follow? reader.next? reading back).bind reader.result? := by
  rw [answer?, reading?, follow?_append_of_run run]

theorem follow?_kind (reading : R) (tokens : List Token) :
    follow? (fun reading token => reader.next? reading token.kind) reading tokens =
      follow? reader.next? reading (tokens.map Token.kind) := by
  induction tokens generalizing reading with
  | nil => rfl
  | cons token tokens ih =>
    rw [List.map_cons, follow?_cons, follow?_cons]
    congr 1
    funext later
    exact ih later

/-- A reader stops behind a front of the tokens, at a token that it refuses or at their end. -/
theorem reach_spec (tokens : List Token) :
    ∃ front left reading, tokens = front ++ left ∧ reader.reach tokens = (reading, left) ∧
      reader.reading? (front.map Token.kind) = some reading ∧
      ∀ token ∈ left.head?, reader.next? reading token.kind = none := by
  obtain ⟨front, left, reading, parts, reached, run, refused⟩ :=
    follow_spec (fun reading (token : Token) => reader.next? reading token.kind) reader.start
      tokens
  refine ⟨front, left, reading, parts, reached, ?_, refused⟩
  rw [reading?, ← follow?_kind]
  exact run

/-- A token that is refused ends every hope of an answer. -/
theorem answer?_of_refused {reading : R} {front : List Kind} {kind : Kind}
    (run : reader.reading? front = some reading) (refused : reader.next? reading kind = none)
    (back : List Kind) : reader.answer? (front ++ kind :: back) = none := by
  rw [answer?_append_of_run _ run, follow?_cons, refused, Option.bind_none, Option.bind_none]

/-- A kind that every reading refuses is nowhere in a sequence with an answer. -/
theorem not_mem_of_answer? {kind : Kind} (refused : ∀ reading, reader.next? reading kind = none)
    {kinds : List Kind} {answer : A} (answered : reader.answer? kinds = some answer) :
    kind ∉ kinds := by
  intro member
  obtain ⟨front, back, rfl⟩ := List.append_of_mem member
  obtain ⟨reading, run, -⟩ := Option.bind_eq_some_iff.mp answered
  rw [reading?, follow?_append] at run
  obtain ⟨middle, first, -⟩ := Option.bind_eq_some_iff.mp run
  rw [reader.answer?_of_refused first (refused middle)] at answered
  cases answered

section Outcomes

variable {reader} {tokens : List Token} {reading : R} {finish : Token} {answer : A}

theorem read_of_finished (reached : reader.reach tokens = (reading, []))
    (result : reader.result? reading = some answer) : reader.read tokens finish = .ok answer := by
  simp [read, reached, result]

theorem read_of_unfinished (reached : reader.reach tokens = (reading, []))
    (result : reader.result? reading = none) :
    reader.read tokens finish = .error (.ofToken finish (reader.expected reading)) := by
  simp [read, reached, result]

theorem read_of_refused {token : Token} {others : List Token}
    (reached : reader.reach tokens = (reading, token :: others)) :
    reader.read tokens finish = .error (.ofToken token (reader.expected reading)) := by
  simp [read, reached]

/-- Reading tokens succeeds exactly if their kinds have an answer, and with that answer. -/
theorem read_eq_ok_iff : reader.read tokens finish = .ok answer ↔
    reader.answer? (tokens.map Token.kind) = some answer := by
  obtain ⟨front, left, reading, rfl, reached, run, refused⟩ := reader.reach_spec tokens
  cases left with
  | nil =>
    have whole : reader.answer? ((front ++ []).map Token.kind) = reader.result? reading := by
      rw [List.append_nil, answer?, run, Option.bind_some]
    rw [whole]
    cases result : reader.result? reading with
    | none => rw [read_of_unfinished reached result]; simp
    | some found => rw [read_of_finished reached result]; simp
  | cons token others =>
    have stopped := refused token rfl
    rw [List.map_append, List.map_cons, reader.answer?_of_refused run stopped,
      read_of_refused reached]
    simp

/-- How a failed reading ended: the tokens in front of the last one looked at led to a reading that
refuses this token, or has no result if it is the end of the text. -/
theorem of_read_eq_error {diagnostic : Diagnostic}
    (failed : reader.read tokens finish = .error diagnostic) :
    ∃ (front back : List Token) (reading : R) (token : Token),
      tokens = front ++ back ∧ reader.looked tokens = front.length + 1 ∧
      reader.reading? (front.map Token.kind) = some reading ∧
      diagnostic = .ofToken token (reader.expected reading) ∧
      ((∃ others, back = token :: others ∧ reader.next? reading token.kind = none) ∨
        (back = [] ∧ token = finish ∧ reader.result? reading = none)) := by
  obtain ⟨front, left, reading, parts, reached, run, refused⟩ := reader.reach_spec tokens
  have count : reader.looked tokens = front.length + 1 := by
    rw [looked, reached, parts, List.length_append, Nat.add_sub_cancel]
  -- An error has two causes: a token that is refused, and an end that comes too early.
  cases left with
  | nil =>
    cases result : reader.result? reading with
    | some found => rw [read_of_finished reached result] at failed; cases failed
    | none =>
      rw [read_of_unfinished reached result] at failed
      cases failed
      exact ⟨front, [], reading, finish, parts, count, run, rfl, .inr ⟨rfl, rfl, result⟩⟩
  | cons token others =>
    rw [read_of_refused reached] at failed
    cases failed
    exact ⟨front, token :: others, reading, token, parts, count, run, rfl,
      .inl ⟨others, rfl, refused token rfl⟩⟩

end Outcomes

end Reader

end ActiveRules
