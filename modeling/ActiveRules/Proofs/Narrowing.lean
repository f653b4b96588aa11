import ActiveRules.Proofs.Atomicity

/-!
# Coordinates narrower than the numbers that are asked for

The numbers of an action have 64 bits, and the coordinates of a view have 32.  So a number is
limited twice, to what a coordinate can be and then to what the container of the view allows, and
the second limit is itself computed from coordinates.  None of this shows: each coordinate is what
one limit over the unbounded integers gives.

## Main definitions

* `Order.limited`: the coordinate that a view is given for a wanted number.
* `Order.IsLimit`: coordinates as the numbers nearest to the wanted ones between two bounds.
* `View.ComesTo`: an action is accepted, and comes to certain requests.

## Main statements

* `Order.toInt_saturate`: what becomes of a number that is no coordinate.
* `Order.isLimit_limited`: two limits in a row are one limit over the integers.
* `View.comesTo_of_response`: an accepted action comes to its requests step by step, too.
* `View.issued_geometry`: to set a geometry is to resize and then to move.
* `View.narrowing_does_not_show`: moving, resizing and both at once.
-/

namespace ActiveRules

/-! ## Two limits in a row -/

namespace Order

/-- Saturation takes a number to the nearest one in range. -/
theorem toInt_saturate (i : Int64) :
    (saturate i).toInt = min (max i.toInt Int32.minValue.toInt) Int32.maxValue.toInt := by
  have least : Int32.minValue.toInt = -2 ^ 31 := rfl
  have most : Int32.maxValue.toInt = 2 ^ 31 - 1 := rfl
  unfold saturate
  split
  · omega
  · split
    · omega
    · rw [Int32.toInt_ofInt_of_le (by omega) (by omega)]
      omega

/-- The coordinates that are given for wanted numbers: the nearest one from `low` to `high`, which
is `low` if the two exclude each other.  So a number between them is kept, and a larger number is
given no smaller coordinate. -/
structure IsLimit (low high : Int) (given : Int64 → Int32) : Prop where
  exact : ∀ wanted, (given wanted).toInt = min (max wanted.toInt low) (max low high)
  kept : ∀ wanted, low ≤ wanted.toInt → wanted.toInt ≤ max low high →
    (given wanted).toInt = wanted.toInt
  monotone : ∀ smaller larger, smaller ≤ larger → given smaller ≤ given larger

/-- The coordinate that a view is given for a wanted number, which is limited twice. -/
def limited (low high : Int32) (wanted : Int64) : Int32 :=
  clamp (saturate wanted) low (max high low)

/-- Of the two limits in a row only that of the container shows. -/
theorem toInt_limited (low high : Int32) (wanted : Int64) :
    (limited low high wanted).toInt =
      min (max wanted.toInt low.toInt) (max low.toInt high.toInt) := by
  -- Saturation moves a number to a bound that both limits of the container keep to.
  have least := low.minValue_le_toInt
  have lowMost := low.toInt_le
  have highMost := high.toInt_le
  have bounds : low.toInt ≤ (max high low).toInt := by
    rw [toInt_max]
    exact Int.le_max_right _ _
  rw [limited, toInt_clamp _ bounds, toInt_max, toInt_saturate]
  omega

/-- So a number that is limited twice is limited once over the integers. -/
theorem isLimit_limited (low high : Int32) : IsLimit low.toInt high.toInt (limited low high) where
  exact := toInt_limited low high
  kept wanted above below := by
    rw [toInt_limited]
    omega
  monotone smaller larger order := by
    rw [Int64.le_iff_toInt_le] at order
    rw [Int32.le_iff_toInt_le, toInt_limited, toInt_limited]
    omega

/-- Where a view of the least extent still lies within its container as a whole. -/
theorem isLimit_limited_sub (extent least : Int32) (positive : 0 ≤ least.toInt)
    (inRange : Int32.minValue.toInt + least.toInt ≤ extent.toInt) :
    IsLimit 0 (extent.toInt - least.toInt) (limited 0 (extent - least)) :=
  toInt_sub_of_le positive inRange ▸ isLimit_limited 0 (extent - least)

end Order

/-! ## What written orders come to -/

namespace View

/-- An action is accepted, step by step as well as a whole, and the view receives these requests. -/
structure ComesTo (view : View) (action : Action) (requests : List Request) : Prop where
  stepwise : executeStepwise action.name action.arguments view =
    some ⟨.ok (), requests.flatMap Request.events, view.receiveAll requests⟩
  whole : execute action.name action.arguments view =
    ⟨.ok (), requests.flatMap Request.events, view.receiveAll requests⟩

variable {view : View} {action : Action} {requests : List Request}

/-- An accepted action comes to the requests of its response, step by step as well as a whole. -/
theorem comesTo_of_response (measurable : view.surface.Measurable)
    (accepted : view.response action = .ok requests) : view.ComesTo action requests := by
  have whole : execute action.name action.arguments view =
      ⟨.ok (), requests.flatMap Request.events, view.receiveAll requests⟩ := by
    rw [view.execute_eq action, issued_of_response accepted, accepted]
    rfl
  exact ⟨by rw [executeStepwise_eq measurable, whole], whole⟩

section InContainer

variable {container : Size} (inside : view.surface.container = some container)
include inside

/-- To move is to request the place within the container that is nearest to the wanted one,
saturated. -/
theorem response_move (x y : Int64) :
    view.response ⟨"move", [.int x, .int y]⟩ =
      .ok [.move (Order.placeWithin container ⟨Order.saturate x, Order.saturate y⟩)] :=
  (response_of_isWritten (.move x y)).trans (Order.inContainer_of_some inside _)

/-- To resize is to request the size that is nearest to the wanted one, saturated. -/
theorem response_resize (width height : Int64) :
    view.response ⟨"resize", [.int width, .int height]⟩ =
      .ok [.resize (Order.sizeWithin container ⟨Order.saturate width, Order.saturate height⟩)] :=
  (response_of_isWritten (.resize width height)).trans (Order.inContainer_of_some inside _)

/-- To set a geometry is to request both, the size first. -/
theorem response_geometry (x y width height : Int64) :
    view.response ⟨"set", [.string "geometry", .int x, .int y, .int width, .int height]⟩ =
      .ok [.resize (Order.sizeWithin container ⟨Order.saturate width, Order.saturate height⟩),
        .move (Order.placeWithin container ⟨Order.saturate x, Order.saturate y⟩)] :=
  (response_of_isWritten (.geometry x y width height)).trans (Order.inContainer_of_some inside _)

/-- To set a geometry is to resize and then to move. -/
theorem issued_geometry (x y width height : Int64) :
    view.issued ⟨"set", [.string "geometry", .int x, .int y, .int width, .int height]⟩ =
      issuedAll [⟨"resize", [.int width, .int height]⟩, ⟨"move", [.int x, .int y]⟩] view := by
  have stillInside (issued : List Request) :
      (view.receiveAll issued).surface.container = some container := by
    rw [surface_receiveAll, inside]
  have both := issued_of_response (response_geometry inside x y width height)
  have resized := issued_of_response (response_resize inside width height)
  rw [issuedAll, issuedAll, issuedAll, both, resized,
    issued_of_response (response_move (stillInside _) x y)]
  rfl

end InContainer

variable (view)

/-- In a container that the least size can be taken off, each coordinate that a view is given is
the limit over the integers of the number that it was asked for, by itself.  No step on the way
breaks down, and to set a geometry comes to what resizing and then moving come to. -/
theorem narrowing_does_not_show {container : Size}
    (inside : view.surface.container = some container) (measurable : container.Measurable) :
    ∃ x y width height : Int64 → Int32,
      Order.IsLimit 0 (container.width.toInt - 40) x ∧
      Order.IsLimit 0 (container.height.toInt - 30) y ∧
      Order.IsLimit 40 container.width.toInt width ∧
      Order.IsLimit 30 container.height.toInt height ∧
      ∀ a b c d : Int64,
        let move : Action := ⟨"move", [.int a, .int b]⟩
        let resize : Action := ⟨"resize", [.int c, .int d]⟩
        let geometry : Action := ⟨"set", [.string "geometry", .int a, .int b, .int c, .int d]⟩
        view.ComesTo move [.move ⟨x a, y b⟩] ∧
        view.ComesTo resize [.resize ⟨width c, height d⟩] ∧
        view.ComesTo geometry [.resize ⟨width c, height d⟩, .move ⟨x a, y b⟩] ∧
        view.issued geometry = issuedAll [resize, move] view ∧
        Executor.after execute [geometry] view = Executor.after execute [resize, move] view := by
  have surfaceMeasurable : view.surface.Measurable := by
    intro other isContainer
    cases inside.symm.trans isContainer
    exact measurable
  refine ⟨Order.limited 0 (container.width - Order.leastWidth),
    Order.limited 0 (container.height - Order.leastHeight),
    Order.limited Order.leastWidth container.width,
    Order.limited Order.leastHeight container.height,
    Order.isLimit_limited_sub container.width Order.leastWidth (by decide) measurable.1,
    Order.isLimit_limited_sub container.height Order.leastHeight (by decide) measurable.2,
    Order.isLimit_limited Order.leastWidth container.width,
    Order.isLimit_limited Order.leastHeight container.height, fun a b c d => ?_⟩
  have same := issued_geometry inside a b c d
  refine ⟨comesTo_of_response surfaceMeasurable (response_move inside a b),
    comesTo_of_response surfaceMeasurable (response_resize inside c d),
    comesTo_of_response surfaceMeasurable (response_geometry inside a b c d), same, ?_⟩
  rw [execute_after, execute_after, issuedAll, issuedAll, List.append_nil, same]

/-- The narrowest container that the least size can be taken off and the highest container that
there is, and numbers that are no coordinates: `2 ^ 32` saturates to less than it is, but not to
less than the container is high. -/
theorem numbers_out_of_range_are_limited_once :
    let container : Size := ⟨Int32.minValue + 40, Int32.maxValue⟩
    let view := View.new ⟨"term", "shell", .toplevel, some container, true, true⟩
      Order.highestOpacity
    let geometry : Action := ⟨"set", [.string "geometry", .int Int64.maxValue, .int 4294967296,
      .int Int64.minValue, .int 4294967296]⟩
    view.surface.container = some container ∧ container.Measurable ∧
      view.ComesTo geometry [.resize ⟨40, 2147483647⟩, .move ⟨0, 2147483617⟩] := by
  intro container view geometry
  have inside : view.surface.container = some container := rfl
  have measurable : container.Measurable := ⟨by decide, by decide⟩
  obtain ⟨x, y, width, height, limitX, limitY, limitWidth, limitHeight, comes⟩ :=
    view.narrowing_does_not_show inside measurable
  have left : x Int64.maxValue = 0 := Int32.toInt_inj.mp ((limitX.exact _).trans (by decide))
  have top : y 4294967296 = 2147483617 := Int32.toInt_inj.mp ((limitY.exact _).trans (by decide))
  have wide : width Int64.minValue = 40 :=
    Int32.toInt_inj.mp ((limitWidth.exact _).trans (by decide))
  have high : height 4294967296 = 2147483647 :=
    Int32.toInt_inj.mp ((limitHeight.exact _).trans (by decide))
  obtain ⟨-, -, both, -, -⟩ := comes Int64.maxValue 4294967296 Int64.minValue 4294967296
  rw [left, top, wide, high] at both
  exact ⟨inside, measurable, both⟩

end View
end ActiveRules
