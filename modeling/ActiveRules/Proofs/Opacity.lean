import ActiveRules.Proofs.Atomicity
import ActiveRules.Proofs.Coherence
import ActiveRules.Proofs.ExactValues
import Mathlib.Algebra.Order.Field.Basic
import Mathlib.Tactic.NormNum

/-!
# Opacities that views are asked for

A view is asked for an opacity only if the one that it has is too far from it.  Both the limits of
opacities and the distance of two of them let "not a number" pass, so the guard has to stop it, and
the guard leaves views with an opacity that is merely close to the wanted one.  What is asked for
is an opacity within the limits nevertheless, and never the same one again.

## Main definitions

* `Binary.AtMost`: the order of numbers, equality included.
* `Order.levelFor`: the opacity that a view is given for a wanted number.
* `Order.IsLevel`: opacities within the limits.
* `Order.isApart`: the guard, which tells whether a view needs a request.
* `Action.SetsOpacity`: the actions that stand for an opacity.

## Main statements

* `Binary.place?_distance`: a distance is the exact one, rounded once.
* `Order.isLevel_levelFor`: an opacity is given within the limits, unless for "not a number".
* `View.isLevel_issuedAll`: only opacities within the limits are asked for.
* `View.not_isApart_execute`: a view to which an opacity was set needs no request for the same one.
* `View.opacity_requests_are_bounded_and_needed`: when a view is asked for an opacity, and for
  which.
-/

namespace ActiveRules

/-! ## Bounds and distances of binary numbers -/

namespace Binary

variable {F : Format} {x y low high : Binary F}

/-- Numerical order, false as soon as one side is "not a number". -/
def AtMost (x y : Binary F) : Prop := ∃ order, x.compare y = some order ∧ order ≠ .gt

theorem AtMost.ne_nan (bounded : x.AtMost y) : x ≠ nan ∧ y ≠ nan := by
  obtain ⟨order, compared, -⟩ := bounded
  rw [← not_or, ← compare_eq_none_iff, compared]
  rintro ⟨⟩

theorem atMost_iff_of_compare {order : Ordering} (compared : x.compare y = some order) :
    x.AtMost y ↔ order ≠ .gt := by
  rw [AtMost, compared]
  simp

theorem isLess_iff_of_compare {order : Ordering} (compared : x.compare y = some order) :
    x.isLess y = true ↔ order = .lt := by
  rw [isLess, compared]
  simp

section Places

variable {p q : Int} (here : x.place? = some p) (there : y.place? = some q)
include here there

theorem atMost_iff_of_place? : x.AtMost y ↔ p ≤ q := by
  rw [atMost_iff_of_compare (compare_of_place? here there), Ne, cmp_eq_gt_iff, not_lt]

theorem isLess_iff_of_place? : x.isLess y = true ↔ p < q := by
  rw [isLess_iff_of_compare (compare_of_place? here there), cmp_eq_lt_iff]

theorem atMost_iff_not_isLess : x.AtMost y ↔ y.isLess x = false := by
  rw [atMost_iff_of_place? here there, ← Bool.not_eq_true, isLess_iff_of_place? there here, not_lt]

end Places

/-- The order of two numbers is the order of their exact values. -/
theorem atMost_iff_of_exactValue? (proper : 0 < F.infinity) {A B : WithBotTop ℚ}
    (here : x.exactValue? = some A) (there : y.exactValue? = some B) : x.AtMost y ↔ A ≤ B := by
  rw [atMost_iff_of_compare (compare_eq_cmp proper here there), Ne, cmp_eq_gt_iff, not_lt]

theorem clamp_nan : (nan : Binary F).clamp low high = nan := by
  have below : nan.isLess low = false := rfl
  have above : high.isLess nan = false := by cases high <;> rfl
  rw [clamp, below, above]
  rfl

/-- A number is limited by bounds that do not exclude each other. -/
theorem clamp_bounds (number : x ≠ nan) (bounds : low.AtMost high) :
    low.AtMost (x.clamp low high) ∧ (x.clamp low high).AtMost high := by
  obtain ⟨p, placed⟩ := exists_place? number
  obtain ⟨a, lowPlaced⟩ := exists_place? bounds.ne_nan.1
  obtain ⟨b, highPlaced⟩ := exists_place? bounds.ne_nan.2
  have inOrder := (atMost_iff_of_place? lowPlaced highPlaced).mp bounds
  unfold clamp
  split
  · exact ⟨(atMost_iff_of_place? lowPlaced lowPlaced).mpr le_rfl, bounds⟩
  · next notBelow =>
    rw [isLess_iff_of_place? placed lowPlaced] at notBelow
    split
    · exact ⟨bounds, (atMost_iff_of_place? highPlaced highPlaced).mpr le_rfl⟩
    · next notAbove =>
      rw [isLess_iff_of_place? highPlaced placed] at notAbove
      exact ⟨(atMost_iff_of_place? lowPlaced placed).mpr (by omega),
        (atMost_iff_of_place? placed highPlaced).mpr (by omega)⟩

/-- A number with a rational value is finite. -/
theorem exists_ordered_of_exactValue? {q : ℚ} (value : x.exactValue? = some (q : WithBotTop ℚ)) :
    ∃ negative rank, x = ordered negative rank ∧ rank.val < F.infinity ∧
      q = units F negative rank / 2 ^ F.leastExponent := by
  obtain ⟨negative, rank, isOrdered, ⟨finite, same⟩ | ⟨-, infinite⟩⟩ := exactValue?_cases value
  · exact ⟨negative, rank, isOrdered, finite, WithBotTop.coe_injective same⟩
  · cases negative with
    | false => exact absurd infinite (WithBotTop.coe_ne_top q)
    | true => exact absurd infinite (WithBotTop.coe_ne_bot q)

/-- The distance of two numbers stands where the exact distance does. -/
theorem place?_distance {p q : ℚ} (here : x.exactValue? = some (p : WithBotTop ℚ))
    (there : y.exactValue? = some (q : WithBotTop ℚ)) :
    (x.distance y).place? = some (F.place ((|p - q| : ℚ) : WithBotTop ℚ)) := by
  obtain ⟨s, a, rfl, finite, rfl⟩ := exists_ordered_of_exactValue? here
  obtain ⟨t, b, rfl, finite', rfl⟩ := exists_ordered_of_exactValue? there
  have positive : 0 < 2 ^ F.leastExponent := Nat.pow_pos (by decide)
  have apart : |(units F s a / 2 ^ F.leastExponent : ℚ) - units F t b / 2 ^ F.leastExponent| =
      (((units F s a - units F t b).natAbs : Int) : ℚ) / (2 ^ F.leastExponent : Nat) := by
    have steps : (0 : ℚ) < 2 ^ F.leastExponent := pow_pos two_pos _
    rw [← sub_div, abs_div, abs_of_pos steps, Int.natCast_natAbs]
    push_cast
    rfl
  rw [apart, Format.place_div F _ positive, Format.placeOf_of_nonneg F (Int.natCast_nonneg _),
    Int.natAbs_natCast, distance, if_pos ⟨finite, finite'⟩]
  rfl

/-- There is a distance between any number and a finite one. -/
theorem distance_ne_nan (number : x ≠ nan) {q : ℚ}
    (there : y.exactValue? = some (q : WithBotTop ℚ)) : x.distance y ≠ nan := by
  obtain ⟨t, b, rfl, finite, -⟩ := exists_ordered_of_exactValue? there
  cases x with
  | nan => exact absurd rfl number
  | ordered s a =>
    unfold distance
    dsimp only
    split
    · rintro ⟨⟩
    · next notBoth =>
      rw [if_neg (by omega)]
      rintro ⟨⟩

theorem distance_nan : x.distance nan = nan := by
  cases x <;> rfl

theorem isLess_nan : x.isLess nan = false := by
  cases x <;> rfl

end Binary

/-! ## Opacities within the limits -/

/-- The opacity that stands for a value.  A double-precision number stands for the nearest
single-precision one. -/
def Value.opacity? : Value → Option Single
  | single x => some x
  | double x => some (x.convert .single)
  | _ => none

theorem Value.isNan_iff_of_opacity? {value : Value} {wanted : Single}
    (stands : value.opacity? = some wanted) : value.isNan = true ↔ wanted = .nan := by
  cases value with
  | single x =>
    cases stands
    exact wanted.isNan_iff
  | double x =>
    cases stands
    exact x.isNan_iff.trans x.convert_eq_nan_iff.symm
  | _ => cases stands

namespace Order

/-- The opacity that a view is given for a wanted number. -/
def levelFor (wanted : Single) : Single := wanted.clamp lowestOpacity highestOpacity

/-- An opacity within the limits, in the order of single precision and exactly. -/
structure IsLevel (level : Single) : Prop where
  above : lowestOpacity.AtMost level
  below : level.AtMost highestOpacity
  exact : ∃ q : ℚ, level.exactValue? = some (q : WithBotTop ℚ) ∧ 1 / 10 ≤ q ∧ q ≤ 1

/-- An opacity is so far from a level that the view is asked for the level. -/
def isApart (current level : Single) : Bool := opacityTolerance.isLess (current.distance level)

/-- The lowest opacity is not one tenth, but the single-precision number nearest to it. -/
theorem exactValue?_lowestOpacity :
    lowestOpacity.exactValue? = some ((13421773 / 2 ^ 27 : ℚ) : WithBotTop ℚ) := by
  have same : lowestOpacity = .ofRatio .single false 13421773 (2 ^ 27) := by decide +kernel
  have exact : Format.single.magnitude 1036831949 * 2 ^ 27 =
      13421773 * 2 ^ Format.single.leastExponent := by decide +kernel
  rw [same, Binary.exactValue?_ofRatio false (by decide) (by decide) exact]
  norm_num

theorem exactValue?_highestOpacity :
    highestOpacity.exactValue? = some ((1 : ℚ) : WithBotTop ℚ) :=
  Binary.exactValue?_ofInt_single (i := 1) (by decide)

theorem place?_opacityTolerance : opacityTolerance.place? = some 872415232 := by decide +kernel

theorem isLevel_of_atMost {level : Single} (above : lowestOpacity.AtMost level)
    (below : level.AtMost highestOpacity) : IsLevel level := by
  refine ⟨above, below, ?_⟩
  obtain ⟨A, value⟩ := Binary.exists_exactValue? above.ne_nan.2
  rw [Binary.atMost_iff_of_exactValue? (by decide) exactValue?_lowestOpacity value] at above
  rw [Binary.atMost_iff_of_exactValue? (by decide) value exactValue?_highestOpacity] at below
  induction A using WithBotTop.rec with
  | bot => exact absurd (le_bot_iff.mp above) (WithBotTop.coe_ne_bot _)
  | top => exact absurd (top_le_iff.mp below) (WithBotTop.coe_ne_top _)
  | coe q =>
    have tenth : (1 / 10 : ℚ) ≤ 13421773 / 2 ^ 27 := by norm_num
    exact ⟨q, value, tenth.trans (WithBotTop.coe_le_coe.mp above),
      WithBotTop.coe_le_coe.mp below⟩

/-- An opacity is given within the limits, unless "not a number" is wanted. -/
theorem isLevel_levelFor {wanted : Single} (number : wanted ≠ .nan) :
    IsLevel (levelFor wanted) := by
  have bounds : lowestOpacity.AtMost highestOpacity := ⟨.lt, by decide +kernel, by decide⟩
  obtain ⟨above, below⟩ := Binary.clamp_bounds number bounds
  exact isLevel_of_atMost above below

theorem isApart_levelFor_nan (current : Single) : isApart current (levelFor .nan) = false := by
  rw [isApart, levelFor, Binary.clamp_nan, Binary.distance_nan, Binary.isLess_nan]

/-- The limits let "not a number" pass, but the guard does not. -/
theorem isLevel_of_isApart {current wanted : Single}
    (apart : isApart current (levelFor wanted) = true) : IsLevel (levelFor wanted) := by
  refine isLevel_levelFor ?_
  rintro rfl
  rw [isApart_levelFor_nan] at apart
  cases apart

/-- A level has no distance from itself. -/
theorem IsLevel.not_isApart_self {level : Single} (isLevel : IsLevel level) :
    isApart level level = false := by
  obtain ⟨q, value, -, -⟩ := isLevel.exact
  have placed := Binary.place?_distance value value
  have zero : Format.single.place ((|q - q| : ℚ) : WithBotTop ℚ) = 0 := by
    rw [sub_self, abs_zero]
    exact Int.natCast_eq_zero.mpr (Format.single.nearestRank_zero 1)
  rw [isApart, ← Bool.not_eq_true, Binary.isLess_iff_of_place? place?_opacityTolerance placed, zero]
  decide

/-- Where the guard makes no request, the distance is at most the tolerance. -/
theorem IsLevel.atMost_of_not_isApart {current level : Single} (isLevel : IsLevel level)
    (number : current ≠ .nan) (near : isApart current level = false) :
    (current.distance level).AtMost opacityTolerance := by
  obtain ⟨q, value, -, -⟩ := isLevel.exact
  obtain ⟨p, placed⟩ := Binary.exists_place? (Binary.distance_ne_nan number value)
  exact (Binary.atMost_iff_not_isLess placed place?_opacityTolerance).mpr near

theorem requests_opacity (wanted : Single) (surface : Surface) (current : Single) :
    (opacity wanted).requests surface current =
      .ok (if isApart current (levelFor wanted) then [.opacity (levelFor wanted)] else []) := rfl

end Order

/-! ## Runs -/

/-- An action that stands for an opacity, whatever becomes of it. -/
def Action.SetsOpacity (action : Action) : Prop :=
  ∃ argument wanted, action = ⟨"set", [.string "alpha", argument]⟩ ∧
    argument.opacity? = some wanted

namespace Order

variable {wanted : Single}

theorem isWritten_opacity {argument : Value} (stands : argument.opacity? = some wanted) :
    (opacity wanted).IsWritten "set" [.string "alpha", argument] := by
  cases argument with
  | single level =>
    cases stands
    exact .single wanted
  | double level =>
    cases stands
    exact .double level
  | _ => cases stands

theorem setsOpacity_of_isWritten {action : Action}
    (written : (opacity wanted).IsWritten action.name action.arguments) : action.SetsOpacity := by
  obtain ⟨name, arguments⟩ := action
  cases written with
  | single => exact ⟨.single wanted, wanted, rfl, rfl⟩
  | double level => exact ⟨.double level, _, rfl, rfl⟩

end Order

namespace View

variable (view : View)

/-! ### Any action -/

/-- An action that does not stand for an opacity leaves it as it is. -/
theorem opacity_receiveAll_issued {action : Action} (other : ¬ action.SetsOpacity) :
    (view.receiveAll (view.issued action)).appearance.opacity = view.appearance.opacity := by
  rcases view.issued_cases action with nothing | ⟨order, understood, made⟩
  · rw [nothing]
    rfl
  · have written := Order.isWritten_of_ofAction understood
    generalize view.issued action = requests at made
    generalize isAfter : (view.receiveAll requests).appearance = after
    have effect := isAfter ▸ Order.effect_of_requests made
    cases effect with
    | opacity => exact absurd (Order.setsOpacity_of_isWritten written) other
    | kept => exact absurd (Order.setsOpacity_of_isWritten written) other
    | _ => rfl

/-- So do such actions in order. -/
theorem opacity_after {actions : List Action}
    (others : ∀ action ∈ actions, ¬ action.SetsOpacity) :
    (Executor.after execute actions view).appearance.opacity = view.appearance.opacity := by
  induction actions generalizing view with
  | nil => rfl
  | cons action rest ih =>
    have kept := view.opacity_receiveAll_issued (others action List.mem_cons_self)
    rw [Executor.after_cons, execute_eq,
      ih _ fun other member => others other (List.mem_cons_of_mem _ member), kept]

/-- An action asks for no opacity but one within the limits. -/
theorem isLevel_issued (action : Action) {level : Single}
    (member : .opacity level ∈ view.issued action) : Order.IsLevel level := by
  rcases view.issued_cases action with nothing | ⟨order, -, made⟩
  · rw [nothing] at member
    cases member
  · generalize view.issued action = requests at made member
    cases order with
    | opacity wanted =>
      rw [Order.requests_opacity] at made
      cases made
      split at member
      · next apart =>
        cases List.mem_singleton.mp member
        exact Order.isLevel_of_isApart apart
      · cases member
    | _ =>
      cases Order.effect_of_requests made
      simp at member

theorem isLevel_issuedAll (actions : List Action) {level : Single}
    (member : .opacity level ∈ issuedAll actions view) : Order.IsLevel level := by
  induction actions generalizing view with
  | nil => cases member
  | cons action rest ih =>
    rcases List.mem_append.mp member with here | there
    · exact view.isLevel_issued action here
    · exact ih _ there

/-! ### Setting the opacity -/

section Setting

variable {argument : Value} {wanted : Single} (stands : argument.opacity? = some wanted)
include stands

theorem execute_setOpacity :
    execute "set" [.string "alpha", argument] view =
      if Order.isApart view.appearance.opacity (Order.levelFor wanted) then
        ⟨.ok (), [.opacitySet (Order.levelFor wanted)],
          view.receive (.opacity (Order.levelFor wanted))⟩
      else ⟨.ok (), [], view⟩ := by
  have accepted : view.response ⟨"set", [.string "alpha", argument]⟩ = _ :=
    response_of_isWritten (Order.isWritten_opacity stands)
  rw [Order.requests_opacity] at accepted
  rw [view.execute_eq ⟨"set", _⟩, issued_of_response accepted, accepted]
  split <;> rfl

/-- A view to which an opacity was set needs no request for the same one. -/
theorem not_isApart_execute :
    Order.isApart (execute "set" [.string "alpha", argument] view).state.appearance.opacity
      (Order.levelFor wanted) = false := by
  rw [view.execute_setOpacity stands]
  split
  · next apart => exact (Order.isLevel_of_isApart apart).not_isApart_self
  · next near => exact Bool.eq_false_iff.mpr near

/-- Where an opacity was set, the view has it up to the tolerance, if it had any number before. -/
theorem atMost_execute (number : view.appearance.opacity ≠ .nan) (proper : wanted ≠ .nan) :
    ((execute "set" [.string "alpha", argument] view).state.appearance.opacity.distance
      (Order.levelFor wanted)).AtMost Order.opacityTolerance := by
  have isLevel := Order.isLevel_levelFor proper
  refine isLevel.atMost_of_not_isApart ?_ (view.not_isApart_execute stands)
  rw [view.execute_setOpacity stands]
  split
  · exact isLevel.above.ne_nan.2
  · exact number

end Setting

/-- However a view was reached, and whatever its opacity was at first, it was asked for opacities
within the limits only.  To set an opacity succeeds; "not a number" changes nothing, and any other
number comes to a request for its level if and only if the opacity of the view is further from the
level than the tolerance.  Behind it, and behind any actions that set no opacity, to set the same
opacity again changes nothing. -/
theorem opacity_requests_are_bounded_and_needed (view : View) (history : List Action) :
    let reached := Executor.after execute history view
    (∃ issued, reached = view.receiveAll issued ∧ reached.requests = view.requests ++ issued ∧
      ∀ level, .opacity level ∈ issued → Order.IsLevel level) ∧
    ∀ (argument : Value) (wanted : Single), argument.opacity? = some wanted →
      let current := reached.appearance.opacity
      let level := wanted.clamp Order.lowestOpacity Order.highestOpacity
      let done := execute "set" [.string "alpha", argument] reached
      done.result = .ok () ∧
      (argument.isNan = true → done.state = reached) ∧
      (current ≠ .nan → argument.isNan = false →
        done.state = (if Order.opacityTolerance.isLess (current.distance level)
          then reached.receive (.opacity level) else reached) ∧
        (done.state.appearance.opacity.distance level).AtMost Order.opacityTolerance) ∧
      ∀ between : List Action, (∀ action ∈ between, ¬ action.SetsOpacity) →
        let later := Executor.after execute between done.state
        execute "set" [.string "alpha", argument] later = ⟨.ok (), [], later⟩ := by
  intro reached
  refine ⟨⟨issuedAll history view, execute_after view history, ?_, fun level member =>
    view.isLevel_issuedAll history member⟩, ?_⟩
  · exact (congrArg requests (execute_after view history)).trans (requests_receiveAll view _)
  · intro argument wanted stands current level done
    have isDone : done = _ := reached.execute_setOpacity stands
    refine ⟨?_, fun isNan => ?_, fun number proper => ⟨?_, ?_⟩, fun between others => ?_⟩
    · rw [isDone]
      split <;> rfl
    · have near := Order.isApart_levelFor_nan current
      rw [← (Value.isNan_iff_of_opacity? stands).mp isNan] at near
      rw [isDone, if_neg (Bool.eq_false_iff.mp near)]
    · rw [isDone]
      exact apply_ite Execution.state _ _ _
    · refine reached.atMost_execute stands number fun isNan => ?_
      rw [(Value.isNan_iff_of_opacity? stands).mpr isNan] at proper
      cases proper
    · intro later
      have near : Order.isApart later.appearance.opacity (Order.levelFor wanted) = false := by
        rw [opacity_after done.state others]
        exact reached.not_isApart_execute stands
      rw [later.execute_setOpacity stands, if_neg (Bool.eq_false_iff.mp near)]

/-- A view is made opaque and, by half the tolerance, not quite opaque, which it is not asked for.
Then it is made as transparent as it can be, and again behind an integer that is refused. -/
theorem opacity_close_to_the_wanted_one_is_kept :
    let view := View.new ⟨"term", "shell", .toplevel, none, true, true⟩
      (.ofRatio .single false 1 2)
    let history : List Action :=
      [⟨"set", [.string "alpha", .double (.ofRatio .double false 3 2)]⟩, ⟨"maximize", []⟩,
        ⟨"set", [.string "alpha", .single .nan]⟩]
    let reached := Executor.after execute history view
    let close : Value := .single (.ofRatio .single false (2 ^ 24 - 1) (2 ^ 24))
    let low : Value := .double (.ofRatio .double false 1 20)
    let lowered := execute "set" [.string "alpha", low] reached
    let between : List Action := [⟨"set", [.string "alpha", .int 1]⟩, ⟨"minimize", []⟩]
    let later := Executor.after execute between lowered.state
    reached.requests = [.opacity Order.highestOpacity, .maximized true] ∧
      (execute "set" [.string "alpha", close] reached).state = reached ∧
      lowered.state = reached.receive (.opacity Order.lowestOpacity) ∧
      execute "set" [.string "alpha", low] later = ⟨.ok (), [], later⟩ := by
  intro view history reached close low lowered between later
  obtain ⟨-, settings⟩ := view.opacity_requests_are_bounded_and_needed history
  have isReached : Executor.after execute history view = reached := rfl
  have issued : reached.requests = [.opacity Order.highestOpacity, .maximized true] := by
    decide +kernel
  have current : reached.appearance.opacity = Order.highestOpacity := by decide +kernel
  have number : reached.appearance.opacity ≠ .nan := by
    rw [current]
    rintro ⟨⟩
  rw [isReached] at settings
  clear_value reached
  obtain ⟨-, -, kept, -⟩ := settings close _ rfl
  obtain ⟨-, -, changed, again⟩ := settings low _ rfl
  refine ⟨issued, ?_, ?_, again between ?_⟩
  · rw [(kept number rfl).1, current]
    exact if_neg (by decide +kernel)
  · rw [(changed number rfl).1, current, if_pos (by decide +kernel)]
    exact congrArg (fun level => reached.receive (.opacity level)) (by decide +kernel)
  · intro action member
    rintro ⟨argument, wanted, same, stands⟩
    rcases List.mem_cons.mp member with rfl | member
    · cases same
      cases stands
    · rw [List.mem_singleton.mp member] at same
      simp at same

end View

end ActiveRules
