import ActiveRules.Proofs.Calls

/-!
# Which leaves of a condition are evaluated

A condition is evaluated from left to right and no further than needed.  Which of its leaves are
evaluated can be told from where they stand: one in the right operand of a connective is reached
only if the left operand leaves the truth value open.

## Main definitions

* `Condition.Leaf`: a comparison of a property with a literal.
* `Condition.Holds`: the classical truth value of a condition.
* `Condition.places`: the leaves of a condition, each behind the left operands to its left.
* `Condition.reached`: the leaves that an evaluation reaches.

## Main statements

* `Condition.reads_evaluate`: an evaluation reads the properties of the leaves it reaches.
* `Condition.reached_endsIn`: the last of them decides whether the evaluation has a fault.
* `Condition.exists_result_of_answers`: the result is the truth value, if there is no fault.
* `Condition.evaluates_as_logic`: evaluation is classical logic, cut short.
-/

namespace ActiveRules

/-! ## One evaluation and then another -/

namespace Evaluation

/-- An evaluation goes on with another one if it answers the truth value that calls for it. -/
def continuedOn (holds : Bool) (first second : Evaluation) : Evaluation :=
  if first.result = .ok holds then first.andThen second else first

/-- The second evaluation is read for only if the first one calls for it. -/
theorem reads_continuedOn (holds : Bool) (first second : Evaluation) :
    (first.continuedOn holds second).reads =
      first.reads ++ if first.result = .ok holds then second.reads else [] := by
  unfold continuedOn
  split
  · rfl
  · exact (List.append_nil _).symm

/-- Between truth values, the second one counts if the first one calls for it. -/
theorem result_continuedOn {first second : Evaluation} (holds : Bool) {a b : Bool}
    (firstResult : first.result = .ok a) (secondResult : second.result = .ok b) :
    (first.continuedOn holds second).result = .ok (if a = holds then b else a) := by
  unfold continuedOn
  by_cases called : a = holds
  · rw [if_pos (called ▸ firstResult), if_pos called]
    exact secondResult
  · rw [if_neg fun same => called (Except.ok.inj (firstResult.symm.trans same)), if_neg called]
    exact firstResult

end Evaluation

namespace Condition

/-! ## Leaves -/

/-- A leaf of a condition: a property, and the literal that it is compared with. -/
structure Leaf where
  property : String
  comparison : Comparison
  value : Value

namespace Leaf

variable (leaf : Leaf) (access : Access)

/-- The property is read, and its value compares with the literal. -/
def Answers (holds : Bool) : Prop :=
  ∃ actual, access.read leaf.property = .ok actual ∧
    actual.compare? leaf.comparison leaf.value = some holds

/-- The property is not read, or its value does not compare with the literal. -/
def Fails (fault : ConditionFault) : Prop :=
  (∃ cause, access.read leaf.property = .error cause ∧ fault = .read cause) ∨
    ∃ actual, access.read leaf.property = .ok actual ∧
      actual.compare? leaf.comparison leaf.value = none ∧
      fault = .incomparable leaf.property leaf.comparison actual.kindName leaf.value.kindName

/-- A comparison has a truth value exactly if its leaf answers, and it is that of the answer. -/
theorem compare_eq_ok_iff {holds : Bool} :
    access.compare leaf.property leaf.comparison leaf.value = .ok holds ↔
      leaf.Answers access holds := by
  unfold Access.compare Answers
  cases access.read leaf.property with
  | error cause => simp
  | ok actual =>
    cases compared : actual.compare? leaf.comparison leaf.value <;> simp [compared]

/-- A comparison has a fault exactly if its leaf fails, and it is the one that the leaf fails with.
-/
theorem compare_eq_error_iff {fault : ConditionFault} :
    access.compare leaf.property leaf.comparison leaf.value = .error fault ↔
      leaf.Fails access fault := by
  unfold Access.compare Fails
  cases access.read leaf.property with
  | error cause => simp [eq_comm]
  | ok actual =>
    cases compared : actual.compare? leaf.comparison leaf.value <;> simp [compared, eq_comm]

end Leaf

/-! ## Conditions as logic -/

/-- Does a condition hold, given which leaves do? -/
def Holds (truth : Leaf → Prop) : Condition → Prop
  | compare property comparison value => truth ⟨property, comparison, value⟩
  | and left right => left.Holds truth ∧ right.Holds truth
  | or left right => left.Holds truth ∨ right.Holds truth
  | not inner => ¬ inner.Holds truth

/-- A leaf at its place in a condition.  Its guards are the left operands of all connectives in
whose right operand it stands, each with the truth value that calls for the right one. -/
structure Place where
  leaf : Leaf
  guards : List (Condition × Bool)

/-- The place within a larger condition, in which it is behind one more guard. -/
def Place.behind (guard : Condition × Bool) (place : Place) : Place :=
  ⟨place.leaf, guard :: place.guards⟩

/-- The leaves of a condition with their guards, from left to right.  The right operand of `and` is
called for by a true left one, that of `or` by a false one. -/
def places : Condition → List Place
  | compare property comparison value => [⟨⟨property, comparison, value⟩, []⟩]
  | and left right => left.places ++ right.places.map (.behind (left, true))
  | or left right => left.places ++ right.places.map (.behind (left, false))
  | not inner => inner.places

/-- The leaves of a condition, from left to right. -/
def leaves (condition : Condition) : List Leaf := condition.places.map Place.leaf

/-- Do all guards of a place have the truth value that calls for what is behind them? -/
def Place.IsReached (access : Access) (place : Place) : Prop :=
  ∀ guard ∈ place.guards, (guard.1.evaluate access).result = .ok guard.2

instance (access : Access) : DecidablePred (Place.IsReached access) := fun place =>
  inferInstanceAs (Decidable (∀ guard ∈ place.guards, _ = _))

/-- The leaves that an evaluation reaches, in order. -/
def reached (condition : Condition) (access : Access) : List Leaf :=
  (condition.places.filter (Place.IsReached access ·)).map Place.leaf

section Reached

variable {access : Access}

/-- A place behind one more guard is reached if that guard calls for it and it was reached without.
-/
theorem Place.isReached_behind_iff {guard : Condition × Bool} {place : Place} :
    (place.behind guard).IsReached access ↔
      (guard.1.evaluate access).result = .ok guard.2 ∧ place.IsReached access :=
  List.forall_mem_cons

/-- Behind a guard with the truth value that calls for them, leaves are reached as they are without
it; behind any other guard none is. -/
theorem reached_behind (guard : Condition × Bool) (condition : Condition) :
    ((condition.places.map (.behind guard)).filter (Place.IsReached access ·)).map Place.leaf =
      if (guard.1.evaluate access).result = .ok guard.2 then condition.reached access else [] := by
  rw [List.filter_map, List.map_map, reached]
  split
  · next called =>
    have alike : ∀ place ∈ condition.places,
        ((fun place => decide (place.IsReached access)) ∘ Place.behind guard) place =
          decide (place.IsReached access) := fun place _ =>
      decide_eq_decide.mpr (Place.isReached_behind_iff.trans (and_iff_right called))
    rw [List.filter_congr alike]
    rfl
  · next closed =>
    have noPlace : condition.places.filter
        ((fun place => decide (place.IsReached access)) ∘ Place.behind guard) = [] :=
      List.filter_eq_nil_iff.mpr fun place _ isReached =>
        closed (Place.isReached_behind_iff.mp (of_decide_eq_true isReached)).1
    rw [noPlace, List.map_nil]

/-- The right operand of `and` is reached behind a true left one. -/
theorem reached_and (left right : Condition) :
    (and left right).reached access = left.reached access ++
      if (left.evaluate access).result = .ok true then right.reached access else [] := by
  rw [reached, places, List.filter_append, List.map_append, reached_behind]
  rfl

/-- The right operand of `or` is reached behind a false left one. -/
theorem reached_or (left right : Condition) :
    (or left right).reached access = left.reached access ++
      if (left.evaluate access).result = .ok false then right.reached access else [] := by
  rw [reached, places, List.filter_append, List.map_append, reached_behind]
  rfl

theorem leaves_and (left right : Condition) :
    (and left right).leaves = left.leaves ++ right.leaves := by
  rw [leaves, places, List.map_append, List.map_map]
  rfl

theorem leaves_or (left right : Condition) :
    (or left right).leaves = left.leaves ++ right.leaves := by
  rw [leaves, places, List.map_append, List.map_map]
  rfl

/-- Leaves are reached in the order in which they stand. -/
theorem sublist_reached (condition : Condition) :
    (condition.reached access).Sublist condition.leaves :=
  List.filter_sublist.map Place.leaf

end Reached

/-! ## Reads -/

section Reads

variable (access : Access)

/-- The evaluation of `and` goes on with the right operand on a true left one. -/
theorem evaluate_and (left right : Condition) :
    (and left right).evaluate access =
      (left.evaluate access).continuedOn true (right.evaluate access) := by
  rw [evaluate, Evaluation.continuedOn]
  split
  · next called => rw [if_pos called]
  · next closed => rw [if_neg fun called => closed called]

/-- The evaluation of `or` goes on with the right operand on a false left one. -/
theorem evaluate_or (left right : Condition) :
    (or left right).evaluate access =
      (left.evaluate access).continuedOn false (right.evaluate access) := by
  rw [evaluate, Evaluation.continuedOn]
  split
  · next called => rw [if_pos called]
  · next closed => rw [if_neg fun called => closed called]

/-- An evaluation reads the properties of the leaves that it reaches, and no others. -/
theorem reads_evaluate (condition : Condition) :
    (condition.evaluate access).reads = (condition.reached access).map Leaf.property := by
  induction condition with
  | compare => rfl
  | and left right ihLeft ihRight =>
    rw [evaluate_and, Evaluation.reads_continuedOn, reached_and, List.map_append, ihLeft, ihRight]
    split <;> rfl
  | or left right ihLeft ihRight =>
    rw [evaluate_or, Evaluation.reads_continuedOn, reached_or, List.map_append, ihLeft, ihRight]
    split <;> rfl
  | not inner ih => exact ih

end Reads

/-! ## Faults -/

/-- Leaves in order, all of which answer except perhaps the last one, whose fault, if it has one, is
that of the result. -/
def EndsIn (access : Access) (leaves : List Leaf) (result : Except ConditionFault Bool) : Prop :=
  ∃ front last, leaves = front ++ [last] ∧
    (∀ leaf ∈ front, ∃ holds, leaf.Answers access holds) ∧
    ∀ fault, result = .error fault ↔ last.Fails access fault

namespace EndsIn

variable {access : Access} {leaves others : List Leaf} {result : Except ConditionFault Bool}

/-- Without a fault in the result the last leaf answers like all before it. -/
theorem exists_answers {holds : Bool} (ends : EndsIn access leaves (.ok holds)) :
    ∀ leaf ∈ leaves, ∃ holds, leaf.Answers access holds := by
  obtain ⟨front, last, rfl, answers, faults⟩ := ends
  intro leaf member
  rcases List.mem_append.mp member with before | atLast
  · exact answers leaf before
  · obtain rfl := List.mem_singleton.mp atLast
    cases compared : access.compare leaf.property leaf.comparison leaf.value with
    | ok holds => exact ⟨holds, (leaf.compare_eq_ok_iff access).mp compared⟩
    | error fault =>
      have fails := (leaf.compare_eq_error_iff access).mp compared
      cases (faults fault).mpr fails

/-- Leaves that all answer may stand in front of others. -/
theorem append {holds : Bool} (first : EndsIn access leaves (.ok holds))
    (second : EndsIn access others result) : EndsIn access (leaves ++ others) result := by
  have answersFirst := first.exists_answers
  obtain ⟨front, last, rfl, answers, faults⟩ := second
  exact ⟨leaves ++ front, last, (List.append_assoc ..).symm,
    List.forall_mem_append.mpr ⟨answersFirst, answers⟩, faults⟩

/-- An evaluation that goes on with another one ends where that one ends, and otherwise where it
ends itself. -/
theorem continuedOn {first second : Evaluation} (holds : Bool)
    (endsFirst : EndsIn access leaves first.result)
    (endsSecond : EndsIn access others second.result) :
    EndsIn access (leaves ++ if first.result = .ok holds then others else [])
      (first.continuedOn holds second).result := by
  unfold Evaluation.continuedOn
  split
  · next called => exact (called ▸ endsFirst).append endsSecond
  · rw [List.append_nil]
    exact endsFirst

/-- Negation leaves faults as they are. -/
theorem negate (ends : EndsIn access leaves result) :
    EndsIn access leaves (result.map Bool.not) := by
  obtain ⟨front, last, split, answers, faults⟩ := ends
  refine ⟨front, last, split, answers, fun fault => Iff.trans ?_ (faults fault)⟩
  cases result <;> simp [Except.map]

end EndsIn

variable {access : Access}

/-- An evaluation ends at the first leaf that fails, or it has no fault. -/
theorem reached_endsIn (condition : Condition) :
    EndsIn access (condition.reached access) (condition.evaluate access).result := by
  induction condition with
  | compare property comparison value =>
    let only : Leaf := ⟨property, comparison, value⟩
    exact ⟨[], only, rfl, by simp, fun fault => only.compare_eq_error_iff access⟩
  | and left right ihLeft ihRight =>
    rw [reached_and, evaluate_and]
    exact ihLeft.continuedOn true ihRight
  | or left right ihLeft ihRight =>
    rw [reached_or, evaluate_or]
    exact ihLeft.continuedOn false ihRight
  | not inner ih => exact ih.negate

/-! ## Truth values -/

/-- If all leaves answer, the result is the truth value of the condition. -/
theorem exists_result_of_answers {condition : Condition}
    (answers : ∀ leaf ∈ condition.leaves, ∃ holds, leaf.Answers access holds) :
    ∃ holds, (condition.evaluate access).result = .ok holds ∧
      (holds = true ↔ condition.Holds fun leaf => leaf.Answers access true) := by
  induction condition with
  | compare property comparison value =>
    let only : Leaf := ⟨property, comparison, value⟩
    obtain ⟨holds, answer⟩ := answers only (List.mem_singleton_self only)
    have result := (only.compare_eq_ok_iff access).mpr answer
    refine ⟨holds, result, ?_⟩
    rw [Holds, ← only.compare_eq_ok_iff access, result]
    simp
  | and left right ihLeft ihRight =>
    rw [leaves_and, List.forall_mem_append] at answers
    obtain ⟨a, leftResult, leftHolds⟩ := ihLeft answers.1
    obtain ⟨b, rightResult, rightHolds⟩ := ihRight answers.2
    have result := Evaluation.result_continuedOn true leftResult rightResult
    refine ⟨_, (evaluate_and access left right).symm ▸ result, ?_⟩
    rw [Holds, ← leftHolds, ← rightHolds]
    cases a <;> simp
  | or left right ihLeft ihRight =>
    rw [leaves_or, List.forall_mem_append] at answers
    obtain ⟨a, leftResult, leftHolds⟩ := ihLeft answers.1
    obtain ⟨b, rightResult, rightHolds⟩ := ihRight answers.2
    have result := Evaluation.result_continuedOn false leftResult rightResult
    refine ⟨_, (evaluate_or access left right).symm ▸ result, ?_⟩
    rw [Holds, ← leftHolds, ← rightHolds]
    cases a <;> simp
  | not inner ih =>
    obtain ⟨holds, result, innerHolds⟩ := ih answers
    refine ⟨!holds, ?_, ?_⟩
    · show (inner.evaluate access).result.map Bool.not = .ok (!holds)
      rw [result]
      rfl
    · rw [Holds, ← innerHolds]
      cases holds <;> simp

/-- If every leaf answers, the result is the truth value that classical logic gives the condition.
The properties are read of those leaves whose guards all have the truth value that calls for what
is behind them: a right operand is evaluated exactly if the left one leaves the truth value open,
and no leaf is evaluated twice or out of order.  All of them answer except perhaps the last one,
whose fault is the fault of the result.  An access that answers the same for the properties read
makes for the same evaluation, whatever it answers for others. -/
theorem evaluates_as_logic (condition : Condition) (access : Access) :
    let evaluation := condition.evaluate access
    let reached := (condition.places.filter (Place.IsReached access ·)).map Place.leaf
    ((∀ leaf ∈ condition.leaves, ∃ holds, leaf.Answers access holds) →
      ∃ holds, evaluation.result = .ok holds ∧
        (holds = true ↔ condition.Holds fun leaf => leaf.Answers access true)) ∧
    (evaluation.reads = reached.map Leaf.property ∧ reached.Sublist condition.leaves) ∧
    (∃ front last, reached = front ++ [last] ∧
      (∀ leaf ∈ front, ∃ holds, leaf.Answers access holds) ∧
      ∀ fault, evaluation.result = .error fault ↔ last.Fails access fault) ∧
    ∀ other : Access, (∀ property ∈ evaluation.reads, access.read property = other.read property) →
      condition.evaluate other = evaluation :=
  ⟨exists_result_of_answers, ⟨condition.reads_evaluate access, condition.sublist_reached⟩,
    condition.reached_endsIn, fun _ alike => (evaluate_congr_of_reads alike).symm⟩

/-- Two of four leaves are passed over, so it makes no difference whether the depth that one of them
compares can be read. -/
theorem decided_operand_is_passed_over :
    let named (name : String) : Condition := .compare "title" .equal (.string name)
    let shallow : Condition := .compare "depth" .less (.int 3)
    let round : Condition := .compare "title" .contains (.string "o")
    let condition : Condition :=
      .and (.or (.not (named "mail")) (.and (named "mail") shallow)) round
    let notes := PropertyTable.empty.set "title" (.string "notes")
    let deepNotes := notes.set "depth" (.int 7)
    (∀ leaf ∈ condition.leaves, ∃ holds, leaf.Answers deepNotes.access holds) ∧
    (condition.evaluate deepNotes.access).reads = ["title", "title"] ∧
    (condition.Holds fun leaf => leaf.Answers deepNotes.access true) ∧
    condition.evaluate notes.access = condition.evaluate deepNotes.access := by
  intro named shallow round condition notes deepNotes
  have answers : ∀ leaf ∈ condition.leaves, ∃ holds, leaf.Answers deepNotes.access holds := by
    intro leaf member
    rcases List.mem_cons.mp member with rfl | member
    · exact ⟨false, _, rfl, rfl⟩
    rcases List.mem_cons.mp member with rfl | member
    · exact ⟨false, _, rfl, rfl⟩
    rcases List.mem_cons.mp member with rfl | member
    · exact ⟨false, _, rfl, rfl⟩
    obtain rfl := List.mem_singleton.mp member
    exact ⟨true, _, rfl, rfl⟩
  have reads : (condition.evaluate deepNotes.access).reads = ["title", "title"] := by
    decide +kernel
  have result : (condition.evaluate deepNotes.access).result = .ok true := by decide +kernel
  obtain ⟨logic, -, -, alike⟩ := condition.evaluates_as_logic deepNotes.access
  obtain ⟨holds, answered, classical⟩ := logic answers
  obtain rfl := Except.ok.inj (answered.symm.trans result)
  refine ⟨answers, reads, classical.mp rfl, alike notes.access fun property member => ?_⟩
  rw [reads] at member
  simp only [List.mem_cons, List.not_mem_nil, or_false, or_self] at member
  subst member
  rfl

end Condition

end ActiveRules
