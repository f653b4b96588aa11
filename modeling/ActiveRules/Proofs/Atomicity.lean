import ActiveRules.Proofs.Containment
import ActiveRules.View.Stepwise

/-!
# Actions on views are carried out as a whole or not at all

Step by step, an action could be refused when its first request is already carried out, and it
could break down where it reads an argument, takes a difference or keeps to bounds.  Neither
happens: its steps come to what it comes to as a whole.

## Main definitions

* `Order.IsWritten`: the names and arguments that stand for an order.
* `Surface.Allows`: the orders that a view can follow.
* `Order.Effect`: what an order asks for, and what it changes.
* `Step.carryOut`: the steps of an order.

## Main statements

* `Order.ofAction_eq_ok_iff`: actions that are understood are written orders.
* `Step.perform_eq`: an action is read before anything is asked of the view.
* `Step.run_carryOut`: the steps of an order come to its requests.
* `View.executeStepwise_eq`: step by step or as a whole, an action comes to the same.
* `View.execution_is_total_exact_and_atomic`: which actions are accepted, and what they change.
-/

namespace ActiveRules

/-! ## Orders in writing -/

/-- The names and arguments that stand for an order. -/
inductive Order.IsWritten : Order → String → List Value → Prop
  | single (level : Single) :
    IsWritten (.opacity level) "set" [.string "alpha", .single level]
  | double (level : Double) :
    IsWritten (.opacity (level.convert .single)) "set" [.string "alpha", .double level]
  | geometry (x y width height : Int64) :
    IsWritten (.geometry ⟨saturate x, saturate y⟩ ⟨saturate width, saturate height⟩) "set"
      [.string "geometry", .int x, .int y, .int width, .int height]
  | maximize : IsWritten (.maximize true) "maximize" []
  | unmaximize : IsWritten (.maximize false) "unmaximize" []
  | minimize : IsWritten (.minimize true) "minimize" []
  | unminimize : IsWritten (.minimize false) "unminimize" []
  | snap (slot : Slot) : IsWritten (.snap slot) "snap" [.string slot.name]
  | move (x y : Int64) : IsWritten (.move ⟨saturate x, saturate y⟩) "move" [.int x, .int y]
  | resize (width height : Int64) :
    IsWritten (.resize ⟨saturate width, saturate height⟩) "resize" [.int width, .int height]

/-- A name is that of a slot if it is the name that the slot has. -/
theorem Slot.ofName?_eq_some_iff {name : String} {slot : Slot} :
    Slot.ofName? name = some slot ↔ slot.name = name := by
  constructor
  · intro found
    have named := List.find?_some found
    exact eq_of_beq named
  · rintro rfl
    cases slot <;> rfl

namespace Order

variable {action name text : String} {position : Nat} {argument : Value} {arguments : List Value}
  {order : Order}

theorem textArgument_eq_ok_iff :
    textArgument action position argument = .ok text ↔ argument = .string text := by
  cases argument <;> simp [textArgument, Value.string?]

/-- A coordinate that is read and then used was an integer. -/
theorem exists_int_of_bind {use : Int32 → Except ActionFault Order}
    (understood : (coordinateArgument action position argument).bind use = .ok order) :
    ∃ i, argument = .int i ∧ use (saturate i) = .ok order := by
  cases argument with
  | int i => exact ⟨i, rfl, understood⟩
  | _ => cases understood

/-- An opacity may be given in either format; one of double precision is rounded. -/
theorem opacityArgument_eq_ok_iff {level : Single} :
    opacityArgument action position argument = .ok level ↔
      argument = .single level ∨ ∃ x, argument = .double x ∧ level = x.convert .single := by
  cases argument <;> simp [opacityArgument, eq_comm]

/-- A slot is understood by its name, and by no other text. -/
theorem slotNamed_eq_ok_iff {slot : Slot} : slotNamed name = .ok slot ↔ slot.name = name := by
  rw [← Slot.ofName?_eq_some_iff, slotNamed]
  cases Slot.ofName? name <;> simp

/-- Orders without arguments are understood without any, and not otherwise. -/
theorem plain_eq_ok_iff {wanted : Order} :
    plain action wanted arguments = .ok order ↔ arguments = [] ∧ order = wanted := by
  cases arguments <;> simp [plain, eq_comm]

/-- What is understood of the arguments of a setting is written there. -/
theorem isWritten_of_ofSetting (understood : ofSetting arguments = .ok order) :
    order.IsWritten "set" arguments := by
  unfold ofSetting at understood
  split at understood
  · cases understood
  · next setting values =>
    obtain ⟨text, isText, understood⟩ := exists_of_bind_eq_ok understood
    obtain rfl := textArgument_eq_ok_iff.mp isText
    split at understood
    · split at understood
      · obtain ⟨level, isLevel, ⟨⟩⟩ := exists_of_bind_eq_ok understood
        rcases opacityArgument_eq_ok_iff.mp isLevel with rfl | ⟨x, rfl, rfl⟩
        · exact .single level
        · exact .double x
      · cases understood
    · split at understood
      · obtain ⟨x, rfl, behindX⟩ := exists_int_of_bind understood
        obtain ⟨y, rfl, behindY⟩ := exists_int_of_bind behindX
        obtain ⟨width, rfl, behindWidth⟩ := exists_int_of_bind behindY
        obtain ⟨height, rfl, ⟨⟩⟩ := exists_int_of_bind behindWidth
        exact .geometry x y width height
      · cases understood
    · cases understood

/-- What is understood of an action is written there. -/
theorem isWritten_of_ofAction (understood : ofAction name arguments = .ok order) :
    order.IsWritten name arguments := by
  unfold ofAction at understood
  split at understood
  · exact isWritten_of_ofSetting understood
  · obtain ⟨rfl, rfl⟩ := plain_eq_ok_iff.mp understood
    exact .maximize
  · obtain ⟨rfl, rfl⟩ := plain_eq_ok_iff.mp understood
    exact .unmaximize
  · obtain ⟨rfl, rfl⟩ := plain_eq_ok_iff.mp understood
    exact .minimize
  · obtain ⟨rfl, rfl⟩ := plain_eq_ok_iff.mp understood
    exact .unminimize
  · split at understood
    · obtain ⟨text, isText, understood⟩ := exists_of_bind_eq_ok understood
      obtain ⟨slot, isSlot, ⟨⟩⟩ := exists_of_bind_eq_ok understood
      obtain rfl := textArgument_eq_ok_iff.mp isText
      obtain rfl := slotNamed_eq_ok_iff.mp isSlot
      exact .snap slot
    · cases understood
  · split at understood
    · obtain ⟨x, rfl, behindX⟩ := exists_int_of_bind understood
      obtain ⟨y, rfl, ⟨⟩⟩ := exists_int_of_bind behindX
      exact .move x y
    · cases understood
  · split at understood
    · obtain ⟨width, rfl, behindWidth⟩ := exists_int_of_bind understood
      obtain ⟨height, rfl, ⟨⟩⟩ := exists_int_of_bind behindWidth
      exact .resize width height
    · cases understood
  · cases understood

/-- A written order is understood, whichever of its spellings it has. -/
theorem ofAction_of_isWritten (written : order.IsWritten name arguments) :
    ofAction name arguments = .ok order := by
  cases written with
  | snap slot => cases slot <;> rfl
  | _ => rfl

/-- The actions that are understood are the written orders. -/
theorem ofAction_eq_ok_iff :
    ofAction name arguments = .ok order ↔ order.IsWritten name arguments :=
  ⟨isWritten_of_ofAction, ofAction_of_isWritten⟩

end Order

/-! ## What an order needs and does -/

/-- The orders that a view can follow. -/
def Surface.Allows (surface : Surface) : Order → Prop
  | .opacity _ => True
  | .maximize _ => surface.canMaximize = true
  | .minimize _ => surface.canMinimize = true
  | .geometry _ _ | .snap _ | .move _ | .resize _ => surface.container.isSome = true

/-- What an order asks for, and how a view appears afterwards.  A view whose opacity is close to
the wanted one is asked for nothing. -/
inductive Order.Effect (before : Appearance) : Order → List Request → Appearance → Prop
  | opacity (wanted level : Single) :
    Effect before (.opacity wanted) [.opacity level] { before with opacity := level }
  | kept (wanted : Single) : Effect before (.opacity wanted) [] before
  | geometry (wanted : Point) (wantedSize : Size) (position : Point) (size : Size) :
    Effect before (.geometry wanted wantedSize) [.resize size, .move position]
      { before with position, size }
  | maximize (wanted : Bool) :
    Effect before (.maximize wanted) [.maximized wanted] { before with maximized := wanted }
  | minimize (wanted : Bool) :
    Effect before (.minimize wanted) [.minimized wanted] { before with minimized := wanted }
  | snap (slot : Slot) : Effect before (.snap slot) [.snap slot] before
  | move (wanted position : Point) :
    Effect before (.move wanted) [.move position] { before with position }
  | resize (wanted size : Size) :
    Effect before (.resize wanted) [.resize size] { before with size }

namespace Order

variable {order : Order} {surface : Surface} {current : Single}

theorem inContainer_of_some {size : Size} (inside : surface.container = some size)
    (requests : Size → List Request) :
    order.inContainer surface requests = .ok (requests size) := by
  rw [inContainer, inside]

theorem inContainer_of_none (outside : surface.container = none)
    (requests : Size → List Request) :
    order.inContainer surface requests = .error (.noContainer order.name) := by
  rw [inContainer, outside]

/-- What a container is needed for is refused without one, and only then. -/
theorem exists_inContainer_iff (requests : Size → List Request) :
    (∃ issued, order.inContainer surface requests = .ok issued) ↔
      surface.container.isSome = true := by
  cases inside : surface.container with
  | none => simp [inContainer_of_none inside]
  | some size => simp [inContainer_of_some inside]

/-- What a view has to support is refused if it does not, and only then. -/
theorem exists_ifAllowed_iff (allowed : Bool) (requests : List Request) :
    (∃ issued, order.ifAllowed allowed requests = .ok issued) ↔ allowed = true := by
  cases allowed <;> simp [ifAllowed]

/-- An order comes to requests where the view can follow it, and only there. -/
theorem exists_requests_iff :
    (∃ issued, order.requests surface current = .ok issued) ↔ surface.Allows order := by
  cases order with
  | opacity wanted => exact iff_of_true ⟨_, rfl⟩ trivial
  | maximize wanted => exact exists_ifAllowed_iff surface.canMaximize _
  | minimize wanted => exact exists_ifAllowed_iff surface.canMinimize _
  | geometry position size => exact exists_inContainer_iff _
  | snap slot => exact exists_inContainer_iff _
  | move position => exact exists_inContainer_iff _
  | resize size => exact exists_inContainer_iff _

/-- The requests of an order have its effect. -/
theorem effect_of_requests {view : View} {issued : List Request}
    (accepted : order.requests view.surface view.appearance.opacity = .ok issued) :
    order.Effect view.appearance issued (view.receiveAll issued).appearance := by
  cases order with
  | opacity wanted =>
    cases accepted
    split
    · exact .opacity wanted _
    · exact .kept wanted
  | geometry position size =>
    obtain ⟨container, -, rfl⟩ := exists_of_inContainer accepted
    exact .geometry position size _ _
  | maximize wanted =>
    obtain ⟨-, rfl⟩ := of_ifAllowed accepted
    exact .maximize wanted
  | minimize wanted =>
    obtain ⟨-, rfl⟩ := of_ifAllowed accepted
    exact .minimize wanted
  | snap slot =>
    obtain ⟨container, -, rfl⟩ := exists_of_inContainer accepted
    exact .snap slot
  | move position =>
    obtain ⟨container, -, rfl⟩ := exists_of_inContainer accepted
    exact .move position _
  | resize size =>
    obtain ⟨container, -, rfl⟩ := exists_of_inContainer accepted
    exact .resize size _

end Order

/-! ## Actions are read first -/

namespace Step

/-- The steps of an order. -/
def carryOut (order : Order) : Step Unit :=
  match order with
  | .opacity wanted => changeOpacity wanted
  | .geometry position size => do
    resizeView order.name size
    moveView order.name position
  | .maximize wanted => requestIf Surface.canMaximize order.name (.maximized wanted)
  | .minimize wanted => requestIf Surface.canMinimize order.name (.minimized wanted)
  | .snap slot => do
    let _ ← container order.name
    request (.snap slot)
  | .move position => moveView order.name position
  | .resize size => resizeView order.name size

section Lifting

variable {A B : Type}

@[simp]
theorem lift_some (a : A) : (liftM (some a) : Step A) = pure a := rfl

@[simp]
theorem lift_error (fault : ActionFault) :
    (liftM (Except.error fault : Except ActionFault A) : Step A) = throw fault := rfl

/-- Steps that only look at arguments are lifted one by one or as a whole. -/
@[simp]
theorem lift_bind (first : Except ActionFault A) (next : A → Except ActionFault B) :
    (liftM (first >>= next) : Step B) = (liftM first >>= fun a => liftM (next a)) := by
  cases first <;> rfl

end Lifting

/-- A setting is carried out as it is understood, once all of its arguments were looked at. -/
theorem performSetting_eq (arguments : List Value) :
    performSetting arguments = (do carryOut (← Order.ofSetting arguments)) := by
  rcases arguments with _ | ⟨setting, values⟩
  · rfl
  · unfold performSetting Order.ofSetting
    rw [lift_bind, bind_assoc]
    show (liftM (Order.textArgument "set" 0 setting) : Step String) >>= _ = _
    refine bind_congr fun text => ?_
    split
    · rcases values with _ | ⟨level, _ | ⟨more, rest⟩⟩
      · rfl
      · simp [arity, carryOut]
      · rfl
    · rcases values with _ | ⟨x, _ | ⟨y, _ | ⟨width, _ | ⟨height, _ | ⟨more, rest⟩⟩⟩⟩⟩
      · rfl
      · rfl
      · rfl
      · rfl
      · simp [arity, coordinate, carryOut, Order.name]
      · rfl
    · simp

/-- An action is read before anything is asked of the view. -/
theorem perform_eq (name : String) (arguments : List Value) :
    perform name arguments = (do carryOut (← Order.ofAction name arguments)) := by
  -- The checks of a name depend on no more than how many arguments there are.
  unfold Order.ofAction
  split
  · exact performSetting_eq arguments
  · cases arguments <;> rfl
  · cases arguments <;> rfl
  · cases arguments <;> rfl
  · cases arguments <;> rfl
  · rcases arguments with _ | ⟨place, _ | ⟨more, rest⟩⟩
    · rfl
    · simp [perform, arity, text, carryOut, Order.name]
    · rfl
  · rcases arguments with _ | ⟨x, _ | ⟨y, _ | ⟨more, rest⟩⟩⟩
    · rfl
    · rfl
    · simp [perform, arity, coordinate, carryOut, Order.name]
    · rfl
  · rcases arguments with _ | ⟨width, _ | ⟨height, _ | ⟨more, rest⟩⟩⟩
    · rfl
    · rfl
    · simp [perform, arity, coordinate, carryOut, Order.name]
    · rfl
  · simp [perform]

end Step

/-! ## Steps come to requests -/

namespace Progress

/-- The progress by requests in order. -/
def afterAll (progress : Progress) (issued : List Request) : Progress :=
  issued.foldl after progress

/-- The answer to an order, and the progress by the requests that it comes to. -/
def answer (progress : Progress) (response : Except ActionFault (List Request)) :
    Except ActionFault Unit × Progress :=
  (response.map fun _ => (), progress.afterAll (response.toOption.getD []))

theorem surface_after (progress : Progress) (request : Request) :
    (progress.after request).view.surface = progress.view.surface := rfl

/-- Requests that are issued one by one arrive as they do together, with their events in order. -/
theorem afterAll_eq (progress : Progress) (issued : List Request) :
    progress.afterAll issued =
      ⟨progress.view.receiveAll issued, progress.log ++ issued.flatMap Request.events⟩ := by
  induction issued generalizing progress with
  | nil => simp [afterAll, View.receiveAll]
  | cons request rest ih =>
    rw [List.flatMap_cons, ← List.append_assoc]
    exact ih (progress.after request)

end Progress

namespace Step

variable {A B : Type} {progress later : Progress} {order : Order}

/-- Behind a step that succeeds, the next one goes on from where it ended. -/
theorem run_bind_of_ok {first : Step A} {a : A}
    (ran : first.run.run progress = some (.ok a, later)) (next : A → Step B) :
    (first >>= next).run.run progress = (next a).run.run later := by
  show (first.run.run progress).bind _ = _
  rw [ran]
  rfl

/-- Behind a step that fails, nothing is done. -/
theorem run_bind_of_error {first : Step A} {fault : ActionFault}
    (ran : first.run.run progress = some (.error fault, later)) (next : A → Step B) :
    (first >>= next).run.run progress = some (.error fault, later) := by
  show (first.run.run progress).bind _ = _
  rw [ran]
  rfl

/-- Steps that start with the container come to the requests that the steps behind come to. -/
theorem run_inContainer {next : Size → Step Unit} {requests : Size → List Request}
    (come : ∀ size, progress.view.surface.container = some size →
      (next size).run.run progress = some (progress.answer (.ok (requests size)))) :
    (container order.name >>= next).run.run progress =
      some (progress.answer (order.inContainer progress.view.surface requests)) := by
  have ran : (container order.name).run.run progress =
      some (containerOf order.name progress.view.surface, progress) := rfl
  cases inside : progress.view.surface.container with
  | none =>
    rw [containerOf, inside] at ran
    rw [Order.inContainer_of_none inside]
    exact run_bind_of_error ran next
  | some size =>
    rw [containerOf, inside] at ran
    rw [Order.inContainer_of_some inside]
    exact (run_bind_of_ok ran next).trans (come size inside)

/-- A difference that does not leave the range is the one that the machine computes. -/
theorem difference?_eq_some {a b : Int32} (positive : 0 ≤ b.toInt)
    (inRange : Int32.minValue.toInt + b.toInt ≤ a.toInt) : difference? a b = some (a - b) := by
  have upper : a.toInt ≤ Int32.maxValue.toInt := a.toInt_le
  exact if_pos ⟨by omega, by omega⟩

/-- Limits do not exclude each other if the upper one is raised to the lower, so clamping does not
break down. -/
theorem clamp?_max_eq_some (x a low : Int32) :
    clamp? x low (max a low) = some (Order.clamp x low (max a low)) := by
  have bounds : low ≤ max a low := by
    rw [Int32.le_iff_toInt_le, Order.toInt_max]
    exact Int.le_max_right _ _
  exact if_pos bounds

/-- The two limits of an opacity are numbers in order, so clamping does not break down. -/
theorem clampNumber?_opacity (wanted : Single) :
    clampNumber? wanted Order.lowestOpacity Order.highestOpacity =
      some (wanted.clamp Order.lowestOpacity Order.highestOpacity) := by
  have bounds : Order.lowestOpacity.compare Order.highestOpacity = some .lt := by decide +kernel
  simp [clampNumber?, bounds]

variable (progress) (order)

/-- To move a view, step by step, is to issue the one request that the order comes to, or to be
refused without a container. -/
theorem run_moveView (measurable : progress.view.surface.Measurable) (wanted : Point) :
    (moveView order.name wanted).run.run progress =
      some (progress.answer (order.inContainer progress.view.surface fun container =>
        [.move (Order.placeWithin container wanted)])) := by
  refine run_inContainer fun bounds inside => ?_
  obtain ⟨wide, high⟩ := measurable bounds inside
  have width : difference? bounds.width Order.leastWidth =
      some (bounds.width - Order.leastWidth) := difference?_eq_some (by decide) wide
  have height : difference? bounds.height Order.leastHeight =
      some (bounds.height - Order.leastHeight) := difference?_eq_some (by decide) high
  simp only [width, height, clamp?_max_eq_some, lift_some, pure_bind]
  rfl

/-- So it is to resize it.  Here the container need not be measurable, for nothing is taken off it.
-/
theorem run_resizeView (wanted : Size) :
    (resizeView order.name wanted).run.run progress =
      some (progress.answer (order.inContainer progress.view.surface fun container =>
        [.resize (Order.sizeWithin container wanted)])) := by
  refine run_inContainer fun bounds inside => ?_
  simp only [clamp?_max_eq_some, lift_some, pure_bind]
  rfl

/-- A change that the view has to support is requested if it does, and refused otherwise. -/
theorem run_requestIf (allowed : Surface → Bool) (made : Request) :
    (requestIf allowed order.name made).run.run progress =
      some (progress.answer (order.ifAllowed (allowed progress.view.surface) [made])) := by
  show StateT.run (ExceptT.run (if allowed progress.view.surface = true then request made
    else throw (.unsupportedState order.name))) progress = _
  unfold Order.ifAllowed
  split <;> rfl

/-- An opacity is requested, step by step, exactly if its order comes to a request. -/
theorem run_changeOpacity (wanted : Single) :
    (changeOpacity wanted).run.run progress =
      some (progress.answer ((Order.opacity wanted).requests progress.view.surface
        progress.view.appearance.opacity)) := by
  rw [changeOpacity, clampNumber?_opacity, lift_some, pure_bind]
  show StateT.run (ExceptT.run (if Order.opacityTolerance.isLess
    (progress.view.appearance.opacity.distance _) = true then request _ else pure ())) progress =
    some (progress.answer (.ok (if Order.opacityTolerance.isLess
      (progress.view.appearance.opacity.distance _) = true then _ else _)))
  split <;> rfl

/-- The second request of a geometry is made from the container that the first one was made
from. -/
theorem run_geometry (measurable : progress.view.surface.Measurable) (position : Point)
    (size : Size) :
    (carryOut (.geometry position size)).run.run progress =
      some (progress.answer ((Order.geometry position size).inContainer progress.view.surface
        fun container =>
          [.resize (Order.sizeWithin container size),
            .move (Order.placeWithin container position)])) := by
  have resized := run_resizeView progress (.geometry position size) size
  cases inside : progress.view.surface.container with
  | none =>
    rw [Order.inContainer_of_none inside] at resized ⊢
    exact run_bind_of_error resized _
  | some bounds =>
    have moved := run_moveView (progress.after (.resize (Order.sizeWithin bounds size)))
      (.geometry position size) measurable position
    rw [Progress.surface_after, Order.inContainer_of_some inside] at moved
    rw [Order.inContainer_of_some inside] at resized ⊢
    exact (run_bind_of_ok resized _).trans moved

/-- Step by step, an order comes to its requests. -/
theorem run_carryOut (measurable : progress.view.surface.Measurable) :
    (carryOut order).run.run progress =
      some (progress.answer
        (order.requests progress.view.surface progress.view.appearance.opacity)) := by
  cases order with
  | opacity wanted => exact run_changeOpacity progress wanted
  | geometry position size => exact run_geometry progress measurable position size
  | maximize wanted => exact run_requestIf progress (.maximize wanted) Surface.canMaximize _
  | minimize wanted => exact run_requestIf progress (.minimize wanted) Surface.canMinimize _
  | snap slot => exact run_inContainer fun _ _ => rfl
  | move position => exact run_moveView progress (.move position) measurable position
  | resize size => exact run_resizeView progress (.resize size) size

end Step

/-! ## Views -/

namespace View

variable {view : View}

/-- No step breaks down, and a refused action leaves no request behind. -/
theorem executeStepwise_eq (measurable : view.surface.Measurable) (name : String)
    (arguments : List Value) :
    executeStepwise name arguments view = some (execute name arguments view) := by
  have ran : (Step.perform name arguments).run.run ⟨view, []⟩ =
      some (Progress.answer ⟨view, []⟩ (view.response ⟨name, arguments⟩)) := by
    rw [Step.perform_eq]
    unfold response
    cases Order.ofAction name arguments with
    | error fault => rfl
    | ok order => exact Step.run_carryOut ⟨view, []⟩ order measurable
  rw [executeStepwise, ran, execute_eq view ⟨name, arguments⟩,
    Progress.answer, Progress.afterAll_eq]
  rfl

/-- The response to a written order is what the order comes to, whichever of its spellings it has.
-/
theorem response_of_isWritten {order : Order} {name : String} {arguments : List Value}
    (written : order.IsWritten name arguments) :
    view.response ⟨name, arguments⟩ =
      order.requests view.surface view.appearance.opacity := by
  rw [response, Order.ofAction_of_isWritten written]
  rfl

/-- An accepted action issues the requests of its response. -/
theorem issued_of_response {action : Action} {requests : List Request}
    (accepted : view.response action = .ok requests) : view.issued action = requests := by
  rw [issued, accepted]
  rfl

variable (view)

/-- The accepted actions are the written orders that the view can follow. -/
theorem exists_response_iff (action : Action) :
    (∃ issued, view.response action = .ok issued) ↔
      ∃ order : Order, order.IsWritten action.name action.arguments ∧
        view.surface.Allows order := by
  constructor
  · rintro ⟨issued, accepted⟩
    obtain ⟨order, understood, made⟩ := exists_of_bind_eq_ok accepted
    exact ⟨order, Order.ofAction_eq_ok_iff.mp understood,
      Order.exists_requests_iff.mp ⟨issued, made⟩⟩
  · rintro ⟨order, written, allowed⟩
    obtain ⟨issued, made⟩ := Order.exists_requests_iff.mpr allowed
    refine ⟨issued, ?_⟩
    rw [response, Order.ofAction_eq_ok_iff.mpr written]
    exact made

/-- Requests change how a view appears and are kept behind the earlier ones; its surface stays. -/
theorem receiveAll_eq (issued : List Request) :
    view.receiveAll issued =
      ⟨view.surface, (view.receiveAll issued).appearance, view.requests ++ issued⟩ := by
  rw [← view.requests_receiveAll issued, ← view.surface_receiveAll issued]

/-- Step by step, no action breaks down on a view whose container, if it has one, the least size
can be taken off.  Accepted are the written orders that the view can follow.  A refused action
leaves the view as it is; an accepted one has the effect of its order. -/
theorem execution_is_total_exact_and_atomic (view : View) (measurable : view.surface.Measurable)
    (name : String) (arguments : List Value) :
    ∃ done, executeStepwise name arguments view = some done ∧
      execute name arguments view = done ∧
      (done.result = .ok () ↔
        ∃ order : Order, order.IsWritten name arguments ∧ view.surface.Allows order) ∧
      (∀ fault, done.result = .error fault → done.state = view) ∧
      (done.result = .ok () → ∃ (order : Order) (issued : List Request) (after : Appearance),
        order.IsWritten name arguments ∧ order.Effect view.appearance issued after ∧
          done.state = ⟨view.surface, after, view.requests ++ issued⟩) := by
  refine ⟨_, executeStepwise_eq measurable name arguments, rfl, ?_⟩
  rw [← view.exists_response_iff ⟨name, arguments⟩, view.execute_eq ⟨name, arguments⟩, issued]
  cases answered : view.response ⟨name, arguments⟩ with
  | error fault =>
    exact ⟨iff_of_false (by rintro ⟨⟩) (by rintro ⟨_, ⟨⟩⟩), fun _ _ => rfl, by rintro ⟨⟩⟩
  | ok issued =>
    obtain ⟨order, understood, made⟩ := exists_of_bind_eq_ok answered
    have written := Order.ofAction_eq_ok_iff.mp understood
    refine ⟨iff_of_true rfl ⟨issued, rfl⟩, by rintro _ ⟨⟩, fun _ => ?_⟩
    exact ⟨order, issued, _, written, Order.effect_of_requests made, view.receiveAll_eq issued⟩

/-- In the smallest container that the least size can be taken off, a view is given the least size
and the upper left corner, whatever numbers are asked for. -/
theorem geometry_is_set_in_negative_container :
    let container : Size := ⟨Int32.minValue + 40, Int32.minValue + 30⟩
    let surface : Surface := ⟨"term", "shell", .toplevel, some container, true, false⟩
    let view := View.new surface Order.highestOpacity
    let arguments : List Value :=
      [.string "geometry", .int 5000000000, .int (-7), .int (-1), .int 60]
    surface.Measurable ∧ ∃ done, executeStepwise "set" arguments view = some done ∧
      done.result = .ok () ∧
      done.state = ⟨surface, { view.appearance with size := ⟨40, 30⟩ },
        [.resize ⟨40, 30⟩, .move ⟨0, 0⟩]⟩ := by
  intro container surface view arguments
  have measurable : surface.Measurable := by
    intro container inside
    cases inside
    exact ⟨by decide, by decide⟩
  obtain ⟨done, ran, same, accepted, -, -⟩ :=
    view.execution_is_total_exact_and_atomic measurable "set" arguments
  refine ⟨measurable, done, ran, accepted.mpr ⟨_, .geometry _ _ _ _, rfl⟩, ?_⟩
  rw [← same]
  decide +kernel

-- The least size cannot be taken off a smaller container, and to move a view breaks down.
example : executeStepwise "move" [.int 0, .int 0]
    (.new ⟨"term", "shell", .toplevel, some ⟨Int32.minValue + 39, 0⟩, true, true⟩
      Order.highestOpacity) = none := by rfl

end View
end ActiveRules
