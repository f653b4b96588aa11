import ActiveRules.Proofs.Atomicity
import ActiveRules.Proofs.Reactions
import Mathlib.Logic.Relation

/-!
# Views replay their requests

A view is changed by requests only, and it keeps each one that changes it.  So how it appears can be
told from the requests that it kept: they are carried out again on the appearance that it began
with.

## Main definitions

* `Appearance.lastAsked`: each part of an appearance as the last request for it set it.
* `Step.OnlyRequests`: a piece of an action that changes a view by requests alone.
* `View.Becomes`: what a view becomes by one request or one action.

## Main statements

* `Step.onlyRequests_perform`: every action changes a view by requests alone, whether it is carried
  out or refused on the way.
* `View.Becomes.exists_issued`, `View.exists_issued_of_run`: a step and a run come to requests.
* `View.appearance_is_replay_of_requests`: the appearance of a view is the replay of its requests.
-/

namespace ActiveRules

/-! ## Replays -/

/-- The opacity that a request is for, if it is for one. -/
def Request.opacity? : Request → Option Single
  | opacity level => some level
  | _ => none

attribute [ext] Appearance

namespace Appearance

/-- Each part of an appearance as the last request for it set it, or else as it was. -/
def lastAsked (start : Appearance) (requests : List Request) : Appearance where
  opacity := (requests.filterMap Request.opacity?).getLast?.getD start.opacity
  position := (requests.filterMap Aspect.position.set?).getLast?.getD start.position
  size := (requests.filterMap Aspect.size.set?).getLast?.getD start.size
  maximized := (requests.filterMap Aspect.maximized.set?).getLast?.getD start.maximized
  minimized := (requests.filterMap Aspect.minimized.set?).getLast?.getD start.minimized

/-- A replay sets each part of an appearance as the last request for it does. -/
theorem foldl_after (start : Appearance) (requests : List Request) :
    requests.foldl after start = start.lastAsked requests := by
  have opacity_after (appearance : Appearance) (request : Request) :
      (appearance.after request).opacity = request.opacity?.getD appearance.opacity := by
    cases request <;> rfl
  exact Appearance.ext (of_foldl_after opacity_after start requests)
    (of_foldl_after Aspect.position.of_after start requests)
    (of_foldl_after Aspect.size.of_after start requests)
    (of_foldl_after Aspect.maximized.of_after start requests)
    (of_foldl_after Aspect.minimized.of_after start requests)

end Appearance

/-! ## Steps that only make requests -/

namespace Step

variable {A B : Type}

/-- Wherever these steps come to an end, the view has received requests and nothing else happened
to it. -/
def OnlyRequests (steps : Step A) : Prop :=
  ∀ (progress later : Progress) (result : Except ActionFault A),
    steps.run.run progress = some (result, later) → ∃ issued, later = progress.afterAll issued

theorem onlyRequests_pure (a : A) : OnlyRequests (pure a) := by
  rintro progress later result ⟨⟩
  exact ⟨[], rfl⟩

theorem onlyRequests_throw (fault : ActionFault) : OnlyRequests (throw fault : Step A) := by
  rintro progress later result ⟨⟩
  exact ⟨[], rfl⟩

theorem onlyRequests_get : OnlyRequests (get : Step Progress) := by
  rintro progress later result ⟨⟩
  exact ⟨[], rfl⟩

theorem onlyRequests_request (made : Request) : OnlyRequests (request made) := by
  rintro progress later result ⟨⟩
  exact ⟨[made], rfl⟩

/-- A check of what was given asks nothing of the view. -/
theorem onlyRequests_check (checked : Except ActionFault A) :
    OnlyRequests (liftM checked : Step A) := by
  cases checked with
  | error fault => exact onlyRequests_throw fault
  | ok a => exact onlyRequests_pure a

/-- An operation that need not be defined asks nothing of the view either. -/
theorem onlyRequests_operation (defined : Option A) : OnlyRequests (liftM defined : Step A) := by
  cases defined with
  | none => rintro progress later result ⟨⟩
  | some a => exact onlyRequests_pure a

/-- One piece of an action after the other. -/
theorem OnlyRequests.bind {first : Step A} {next : A → Step B} (before : OnlyRequests first)
    (behind : ∀ a, OnlyRequests (next a)) : OnlyRequests (first >>= next) := by
  intro progress later result ran
  cases reached : first.run.run progress with
  | none =>
    -- Steps that break down come to no end, nor do those behind them.
    have broken : (first >>= next).run.run progress = none := by
      show (first.run.run progress).bind _ = _
      rw [reached]
      rfl
    rw [broken] at ran
    cases ran
  | some pair =>
    obtain ⟨outcome, between⟩ := pair
    obtain ⟨issued, rfl⟩ := before _ _ _ reached
    cases outcome with
    | error fault =>
      rw [run_bind_of_error reached] at ran
      cases ran
      exact ⟨issued, rfl⟩
    | ok a =>
      rw [run_bind_of_ok reached] at ran
      obtain ⟨more, rfl⟩ := behind a _ _ _ ran
      exact ⟨issued ++ more, (List.foldl_append ..).symm⟩

/-! ### Orders and actions -/

theorem onlyRequests_container (action : String) : OnlyRequests (container action) :=
  onlyRequests_get.bind fun _ => onlyRequests_check _

theorem onlyRequests_moveView (action : String) (wanted : Point) :
    OnlyRequests (moveView action wanted) := by
  refine (onlyRequests_container action).bind fun bounds => ?_
  refine (onlyRequests_operation _).bind fun right => ?_
  refine (onlyRequests_operation _).bind fun x => ?_
  refine (onlyRequests_operation _).bind fun lowest => ?_
  exact (onlyRequests_operation _).bind fun y => onlyRequests_request (.move ⟨x, y⟩)

theorem onlyRequests_resizeView (action : String) (wanted : Size) :
    OnlyRequests (resizeView action wanted) := by
  refine (onlyRequests_container action).bind fun bounds => ?_
  refine (onlyRequests_operation _).bind fun width => ?_
  exact (onlyRequests_operation _).bind fun height => onlyRequests_request (.resize ⟨width, height⟩)

theorem onlyRequests_changeOpacity (wanted : Single) : OnlyRequests (changeOpacity wanted) := by
  refine (onlyRequests_operation _).bind fun level => onlyRequests_get.bind fun progress => ?_
  split
  · exact onlyRequests_request _
  · exact onlyRequests_pure ()

theorem onlyRequests_requestIf (allowed : Surface → Bool) (action : String) (made : Request) :
    OnlyRequests (requestIf allowed action made) := by
  refine onlyRequests_get.bind fun progress => ?_
  split
  · exact onlyRequests_request made
  · exact onlyRequests_throw _

theorem onlyRequests_carryOut (order : Order) : OnlyRequests (carryOut order) := by
  cases order with
  | opacity wanted => exact onlyRequests_changeOpacity wanted
  | geometry position size =>
    exact (onlyRequests_resizeView _ size).bind fun _ => onlyRequests_moveView _ position
  | maximize wanted => exact onlyRequests_requestIf _ _ _
  | minimize wanted => exact onlyRequests_requestIf _ _ _
  | snap slot => exact (onlyRequests_container _).bind fun _ => onlyRequests_request _
  | move position => exact onlyRequests_moveView _ position
  | resize size => exact onlyRequests_resizeView _ size

/-- Whatever an action comes to, carried out or refused on the way, comes to requests. -/
theorem onlyRequests_perform (name : String) (arguments : List Value) :
    OnlyRequests (perform name arguments) := by
  rw [perform_eq]
  exact (onlyRequests_check _).bind onlyRequests_carryOut

end Step

/-! ## Runs of a view -/

namespace View

variable {view later : View}

/-- Step by step, too, an action comes to requests. -/
theorem exists_issued_of_executeStepwise {name : String} {arguments : List Value}
    {done : Execution View} (ran : executeStepwise name arguments view = some done) :
    ∃ issued, done.state = view.receiveAll issued := by
  obtain ⟨⟨result, progress⟩, reached, ⟨⟩⟩ := Option.bind_eq_some_iff.mp ran
  obtain ⟨issued, rfl⟩ := Step.onlyRequests_perform name arguments _ _ _ reached
  exact ⟨issued, by rw [Progress.afterAll_eq]⟩

/-- What a view becomes by one request or by one action, which may be carried out as a whole or step
by step and may be refused. -/
inductive Becomes (view : View) : View → Prop
  | request (made : Request) : Becomes view (view.receive made)
  | execute (name : String) (arguments : List Value) :
    Becomes view (View.execute name arguments view).state
  | executeStepwise {name : String} {arguments : List Value} {done : Execution View}
    (ran : View.executeStepwise name arguments view = some done) : Becomes view done.state

/-- Nothing changes a view but the requests that it receives. -/
theorem Becomes.exists_issued (becomes : view.Becomes later) :
    ∃ issued, later = view.receiveAll issued := by
  cases becomes with
  | request made => exact ⟨[made], rfl⟩
  | execute name arguments => exact ⟨_, congrArg _ (view.execute_eq ⟨name, arguments⟩)⟩
  | executeStepwise ran => exact exists_issued_of_executeStepwise ran

/-- However long a view is used, nothing else changes it. -/
theorem exists_issued_of_run (run : Relation.ReflTransGen Becomes view later) :
    ∃ issued, later = view.receiveAll issued := by
  induction run with
  | refl => exact ⟨[], rfl⟩
  | tail _ becomes ih =>
    obtain ⟨issued, rfl⟩ := ih
    obtain ⟨more, rfl⟩ := becomes.exists_issued
    exact ⟨issued ++ more, (view.receiveAll_append issued more).symm⟩

/-- However a view is used, how it appears is the replay of the requests that it kept, on the
appearance that it began with: each part of it is as the last request for that part asked.  The
requests are added to at their end alone, what is added accounts for what has changed, and a request
that the view receives is kept.  What the view is does not change. -/
theorem appearance_is_replay_of_requests (surface : Surface) (opacity : Single)
    {reached later : View} (before : Relation.ReflTransGen Becomes (.new surface opacity) reached)
    (behind : Relation.ReflTransGen Becomes reached later) :
    reached.appearance = reached.requests.foldl Appearance.after (.initial opacity) ∧
    reached.appearance = (Appearance.initial opacity).lastAsked reached.requests ∧
    (∃ issued, later.requests = reached.requests ++ issued ∧
      later.appearance = issued.foldl Appearance.after reached.appearance) ∧
    (∀ made, (reached.receive made).requests = reached.requests ++ [made]) ∧
    reached.surface = surface ∧ later.surface = surface := by
  obtain ⟨issued, rfl⟩ := exists_issued_of_run before
  obtain ⟨more, rfl⟩ := exists_issued_of_run behind
  have kept : ((View.new surface opacity).receiveAll issued).requests = issued :=
    requests_receiveAll _ issued
  have appears := appearance_receiveAll (.new surface opacity) issued
  refine ⟨?_, ?_, ⟨more, requests_receiveAll _ more, appearance_receiveAll _ more⟩,
    fun made => rfl, surface_receiveAll _ issued, ?_⟩
  · rw [kept]
    exact appears
  · rw [kept, ← Appearance.foldl_after]
    exact appears
  · rw [surface_receiveAll, surface_receiveAll]
    rfl

/-- Both requests for a geometry are kept and carried out, and so is an opacity that is no number.
A refused action leaves nothing behind. -/
theorem geometry_and_refusal_are_replayed :
    let start := View.new ⟨"term", "shell", .toplevel, some ⟨800, 600⟩, true, false⟩
      Order.highestOpacity
    let geometry : List Value :=
      [.string "geometry", .int 10, .int 500, .int 5000000000, .int 300]
    let dimmed := start.receive (.opacity .nan)
    let reached := (execute "set" geometry dimmed).state
    let refused := (execute "minimize" [] reached).state
    let later := (execute "maximize" [] refused).state
    Relation.ReflTransGen Becomes start reached ∧ Relation.ReflTransGen Becomes reached later ∧
    reached.requests = [.opacity .nan, .resize ⟨800, 300⟩, .move ⟨10, 500⟩] ∧
    reached.appearance = reached.requests.foldl Appearance.after start.appearance ∧
    reached.appearance = ⟨.nan, ⟨10, 500⟩, ⟨800, 300⟩, false, false⟩ ∧
    later.requests = reached.requests ++ [.maximized true] ∧ later.surface = start.surface := by
  intro start geometry dimmed reached refused later
  have measurable : dimmed.surface.Measurable := by
    rintro container ⟨⟩
    exact ⟨by decide, by decide⟩
  have opened : Becomes start dimmed := .request _
  have settled : Becomes dimmed reached :=
    .executeStepwise (executeStepwise_eq measurable "set" geometry)
  have before : Relation.ReflTransGen Becomes start reached := .tail (.single opened) settled
  have behind : Relation.ReflTransGen Becomes reached later :=
    .tail (.single (.execute "minimize" [])) (.execute "maximize" [])
  obtain ⟨replayed, parts, -, -, -, same⟩ :=
    appearance_is_replay_of_requests start.surface Order.highestOpacity before behind
  have kept : reached.requests = [.opacity .nan, .resize ⟨800, 300⟩, .move ⟨10, 500⟩] := by
    decide +kernel
  refine ⟨before, behind, kept, replayed, ?_, by decide +kernel, same⟩
  rw [parts, kept]
  rfl

end View

end ActiveRules
