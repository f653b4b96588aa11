import ActiveRules.Proofs.Atomicity

/-!
# Reactions of views

What a signal does to a view depends on what the view is and not on what happened to it before:
conditions read nothing that an action changes, and of all that an action changes only the opacity
is weighed by later ones.

## Main definitions

* `Request.withoutOpacity`: the requests for anything but an opacity.
* `Aspect`: a part of how a view appears that requests set.

## Main statements

* `View.execute_result_congr`, `View.issuedAll_congr`: views that are the same accept the same
  actions and come to the same requests, apart from opacities.
* `Aspect.of_receiveAll`: the last request to set an aspect counts.
* `RuleBase.of_react_again`: the same signal again changes no aspect.
* `Application.executeStepwise_carryOutAll`: in a measurable container no action breaks down,
  whatever was applied to a view before.
* `RuleBase.reactions_do_not_depend_on_history`: whatever was applied to a view before, its reaction
  to a signal is the same.
-/

namespace ActiveRules

/-! ## Requests apart from opacities -/

/-- Is this a request for an opacity? -/
def Request.isOpacity : Request → Bool
  | opacity _ => true
  | _ => false

/-- The requests for anything but an opacity. -/
def Request.withoutOpacity (requests : List Request) : List Request :=
  requests.filter fun request => !request.isOpacity

theorem Request.withoutOpacity_append (front back : List Request) :
    withoutOpacity (front ++ back) = withoutOpacity front ++ withoutOpacity back :=
  List.filter_append ..

/-- An order weighs what a view is.  The opacity that the view has counts for an opacity only. -/
theorem Order.requests_withoutOpacity (order : Order) (surface : Surface)
    (current other : Single) :
    (order.requests surface current).map Request.withoutOpacity =
      (order.requests surface other).map Request.withoutOpacity := by
  cases order with
  | opacity wanted =>
    have nothingElse : ∀ current : Single,
        ((opacity wanted).requests surface current).map Request.withoutOpacity = .ok [] := by
      intro current
      unfold requests
      dsimp only
      split <;> rfl
    rw [nothingElse, nothingElse]
  | geometry | maximize | minimize | snap | move | resize => rfl

namespace View

/-- No action changes what a view is, and conditions read nothing else of it. -/
theorem execute_leavesReads : execute.LeavesReads access := by
  intro name arguments view property
  have done := view.execute_eq ⟨name, arguments⟩
  dsimp only at done
  rw [done, access, access, surface_receiveAll]

section Congruence

variable {view other : View} (same : view.surface = other.surface)
include same

theorem access_congr : view.access = other.access := by
  rw [access, access, same]

theorem response_congr (action : Action) :
    (view.response action).map Request.withoutOpacity =
      (other.response action).map Request.withoutOpacity := by
  unfold response
  cases Order.ofAction action.name action.arguments with
  | error fault => rfl
  | ok order =>
    have weighed := order.requests_withoutOpacity view.surface view.appearance.opacity
      other.appearance.opacity
    rw [same] at weighed ⊢
    exact weighed

theorem execute_result_congr (action : Action) :
    (execute action.name action.arguments view).result =
      (execute action.name action.arguments other).result := by
  have verdict (response : Except ActionFault (List Request)) :
      response.map (fun _ => ()) = (response.map Request.withoutOpacity).map fun _ => () := by
    cases response <;> rfl
  rw [execute_eq, execute_eq, verdict, response_congr same, ← verdict]

theorem issued_congr (action : Action) :
    Request.withoutOpacity (view.issued action) = Request.withoutOpacity (other.issued action) := by
  have inside (response : Except ActionFault (List Request)) :
      Request.withoutOpacity (response.toOption.getD []) =
        (response.map Request.withoutOpacity).toOption.getD [] := by
    cases response <;> rfl
  rw [issued, issued, inside, response_congr same, ← inside]

/-- Views that are the same come to the same requests, apart from opacities, whatever actions they
are asked for. -/
theorem issuedAll_congr (actions : List Action) :
    Request.withoutOpacity (issuedAll actions view) =
      Request.withoutOpacity (issuedAll actions other) := by
  induction actions generalizing view other with
  | nil => rfl
  | cons action rest ih =>
    have stillSame : (view.receiveAll (view.issued action)).surface =
        (other.receiveAll (other.issued action)).surface := by simpa using same
    rw [issuedAll, issuedAll, Request.withoutOpacity_append, Request.withoutOpacity_append,
      issued_congr same, ih stillSame]

/-- They accept the same ones of these actions, and refuse the others for the same reasons. -/
theorem calls_congr (actions : List Action) :
    Executor.calls execute actions view = Executor.calls execute actions other := by
  induction actions generalizing view other with
  | nil => rfl
  | cons action rest ih =>
    have stillSame : (execute action.name action.arguments view).state.surface =
        (execute action.name action.arguments other).state.surface := by
      simpa [execute_eq] using same
    rw [Executor.calls_cons, Executor.calls_cons, execute_result_congr same, ih stillSame]

end Congruence

end View

/-! ## Aspects -/

/-- The last request to set a part of an appearance counts. -/
theorem Appearance.of_foldl_after {A : Type} {part : Appearance → A} {set? : Request → Option A}
    (part_after : ∀ appearance request,
      part (appearance.after request) = (set? request).getD (part appearance))
    (appearance : Appearance) (issued : List Request) :
    part (issued.foldl after appearance) =
      (issued.filterMap set?).getLast?.getD (part appearance) := by
  induction issued generalizing appearance with
  | nil => rfl
  | cons request rest ih =>
    rw [List.foldl_cons, ih, part_after, List.filterMap_cons]
    cases set? request with
    | none => rfl
    | some value => simp [List.getLast?_cons]

/-- A part of how a view appears that requests set, though not those for an opacity. -/
structure Aspect (A : Type) where
  of : Appearance → A
  /-- What a request sets it to. -/
  set? : Request → Option A
  of_after : ∀ appearance request,
    of (appearance.after request) = (set? request).getD (of appearance)
  set?_opacity : ∀ level, set? (.opacity level) = none

namespace Aspect

/-- Where a view is. -/
def position : Aspect Point where
  of := Appearance.position
  set?
    | .move position => some position
    | _ => none
  of_after appearance request := by cases request <;> rfl
  set?_opacity _ := rfl

/-- How large a view is. -/
def size : Aspect Size where
  of := Appearance.size
  set?
    | .resize size => some size
    | _ => none
  of_after appearance request := by cases request <;> rfl
  set?_opacity _ := rfl

/-- Is a view maximized? -/
def maximized : Aspect Bool where
  of := Appearance.maximized
  set?
    | .maximized maximized => some maximized
    | _ => none
  of_after appearance request := by cases request <;> rfl
  set?_opacity _ := rfl

/-- Is a view minimized? -/
def minimized : Aspect Bool where
  of := Appearance.minimized
  set?
    | .minimized minimized => some minimized
    | _ => none
  of_after appearance request := by cases request <;> rfl
  set?_opacity _ := rfl

variable {A : Type} (aspect : Aspect A)

/-- The last request to set an aspect counts. -/
theorem of_receiveAll (view : View) (issued : List Request) :
    aspect.of (view.receiveAll issued).appearance =
      (issued.filterMap aspect.set?).getLast?.getD (aspect.of view.appearance) := by
  rw [View.appearance_receiveAll, Appearance.of_foldl_after aspect.of_after]

theorem filterMap_withoutOpacity (issued : List Request) :
    (Request.withoutOpacity issued).filterMap aspect.set? = issued.filterMap aspect.set? := by
  rw [Request.withoutOpacity, List.filterMap_filter]
  refine List.filterMap_congr fun request _ => ?_
  cases request with
  | opacity level => exact (aspect.set?_opacity level).symm
  | move | resize | maximized | minimized | snap => rfl

/-- What requests have set, the same requests set again, whatever opacities are asked for. -/
theorem of_receiveAll_again (view : View) {first second : List Request}
    (alike : Request.withoutOpacity first = Request.withoutOpacity second) :
    aspect.of ((view.receiveAll first).receiveAll second).appearance =
      aspect.of (view.receiveAll first).appearance := by
  have settings : second.filterMap aspect.set? = first.filterMap aspect.set? := by
    rw [← aspect.filterMap_withoutOpacity second, ← alike, aspect.filterMap_withoutOpacity]
  rw [of_receiveAll, of_receiveAll, settings]
  cases (first.filterMap aspect.set?).getLast? <;> rfl

end Aspect

/-! ## Applications -/

theorem Application.surface_carryOutAll (applications : List Application) (view : View) :
    (carryOutAll applications view).surface = view.surface := by
  obtain ⟨actions, asked⟩ := exists_carryOutAll_eq_after applications view
  rw [asked, View.execute_after, View.surface_receiveAll]

/-- Whatever was applied to a view before, and whatever actions it was asked for since, the next one
does not break down if the least size can be taken off the container.  Step by step it comes to what
it comes to as a whole. -/
theorem Application.executeStepwise_carryOutAll {view : View} (measurable : view.surface.Measurable)
    (applications : List Application) (actions : List Action) (name : String)
    (arguments : List Value) :
    let now := Executor.after View.execute actions (carryOutAll applications view)
    View.executeStepwise name arguments now = some (View.execute name arguments now) := by
  intro now
  have same : now.surface = view.surface := by
    rw [show now = _ from View.execute_after _ actions, View.surface_receiveAll,
      surface_carryOutAll]
  exact View.executeStepwise_eq (same ▸ measurable) name arguments

namespace RuleBase

variable (base : RuleBase) (signal : String)

/-- The reaction of a view to a signal: what is reported, and the view afterwards. -/
def react (view : View) : Run View FiringReport :=
  base.apply signal View.access View.execute view

/-- The requests that a view receives in reaction to a signal. -/
def requestsOn (view : View) : List Request :=
  View.issuedAll ((base.dueActions signal view.access).map DueAction.action) view

theorem react_state (view : View) :
    (base.react signal view).state = view.receiveAll (base.requestsOn signal view) := by
  rw [react, base.apply_state View.execute_leavesReads, View.execute_after, requestsOn]

section Congruence

variable {view other : View} (same : view.surface = other.surface)
include same

theorem requestsOn_congr :
    Request.withoutOpacity (base.requestsOn signal view) =
      Request.withoutOpacity (base.requestsOn signal other) := by
  rw [requestsOn, requestsOn, View.access_congr same, View.issuedAll_congr same]

theorem react_value_congr :
    (base.react signal view).value = (base.react signal other).value := by
  unfold react apply
  split
  · simp only [applyRules_value View.execute_leavesReads, View.access_congr same,
      View.calls_congr same]
  · rfl

end Congruence

/-- The same signal again changes no aspect. -/
theorem of_react_again {A : Type} (aspect : Aspect A) (view : View) :
    aspect.of (base.react signal (base.react signal view).state).state.appearance =
      aspect.of (base.react signal view).state.appearance := by
  have same : (view.receiveAll (base.requestsOn signal view)).surface = view.surface :=
    view.surface_receiveAll _
  rw [react_state, react_state]
  exact aspect.of_receiveAll_again view (base.requestsOn_congr signal same).symm

/-- The reaction to a signal does not depend on what was applied to the view before, whichever rules
that were.  What is reported is the same, and so are the requests that the view receives, and their
order, except for those for an opacity.  When the signal comes a second time, the view stays where
it is and as large as it is, and it stays maximized or minimized or not.

Coordinates wrap here where the least size cannot be taken off the container.  Checked arithmetic
breaks down there, which `View.executeStepwise` tells; in all other containers no action on the way
does, by `Application.executeStepwise_carryOutAll`. -/
theorem reactions_do_not_depend_on_history (base : RuleBase) (signal : String) (view : View)
    (history : List Application) :
    let later := Application.carryOutAll history view
    let once := (base.react signal later).state
    let twice := (base.react signal once).state
    (base.react signal later).value = (base.react signal view).value ∧
    (∃ issued issuedLater,
      (base.react signal view).state.requests = view.requests ++ issued ∧
      once.requests = later.requests ++ issuedLater ∧
      Request.withoutOpacity issuedLater = Request.withoutOpacity issued) ∧
    twice.appearance.position = once.appearance.position ∧
    twice.appearance.size = once.appearance.size ∧
    twice.appearance.maximized = once.appearance.maximized ∧
    twice.appearance.minimized = once.appearance.minimized := by
  intro later once twice
  have same : later.surface = view.surface := Application.surface_carryOutAll history view
  refine ⟨base.react_value_congr signal same, ⟨_, _, ?_, ?_, base.requestsOn_congr signal same⟩,
    base.of_react_again signal .position later, base.of_react_again signal .size later,
    base.of_react_again signal .maximized later, base.of_react_again signal .minimized later⟩
  · rw [react_state, View.requests_receiveAll]
  · rw [show once = _ from base.react_state signal later, View.requests_receiveAll]

end RuleBase

end ActiveRules
