import ActiveRules.Proofs.Calls
import ActiveRules.View.Order

/-!
# Views stay in their containers

Rules can ask a view for anything.  What it receives are requests that keep it within its
container, and that it supports.

## Main definitions

* `Surface.Admits`: the requests that rules can make of a view.
* `View.issued`, `View.issuedAll`: the requests that actions come to.
* `Appearance.ReachesInto`: the view and its container overlap by at least the least size.
* `Application`: a rule or a rule base applied to a view.

## Main statements

* `Order.toInt_clamp`, `Order.toInt_placeWithin`, `Order.toInt_sizeWithin`: limits over the
  integers.
* `Order.admits_of_requests`: the requests of one order are admitted.
* `View.execute_eq`, `View.execute_after`: actions carried out are their requests received.
* `View.admits_issuedAll`: the requests of a sequence of actions are admitted.
* `View.stays_in_container`: and those of any applications, which never move a view out of sight.
-/

namespace ActiveRules

/-! ## Limits over the integers -/

/-- A container is so large that the least size can be taken off it. -/
def Size.Measurable (container : Size) : Prop :=
  Int32.minValue.toInt + 40 ≤ container.width.toInt ∧
    Int32.minValue.toInt + 30 ≤ container.height.toInt

namespace Order

theorem toInt_max (a b : Int32) : (max a b).toInt = max a.toInt b.toInt := by
  show (if a ≤ b then b else a).toInt = _
  simp only [Int32.le_iff_toInt_le]
  split <;> omega

/-- Clamping between limits in order is clamping of integers. -/
theorem toInt_clamp (x : Int32) {low high : Int32} (bounds : low.toInt ≤ high.toInt) :
    (clamp x low high).toInt = min (max x.toInt low.toInt) high.toInt := by
  simp only [clamp, Int32.lt_iff_toInt_lt]
  split
  · omega
  · split <;> omega

/-- A difference that does not leave the range is that of integers. -/
theorem toInt_sub_of_le {a b : Int32} (positive : 0 ≤ b.toInt)
    (inRange : Int32.minValue.toInt + b.toInt ≤ a.toInt) :
    (a - b).toInt = a.toInt - b.toInt := by
  have upper := a.toInt_lt
  rw [Int32.toInt_minValue] at inRange
  rw [Int32.toInt_sub]
  exact Int.bmod_eq_of_le (by omega) (by omega)

variable {container : Size}

/-- A place is limited such that a view of the least size lies in the container, or else it is the
corner. -/
theorem toInt_placeWithin (measurable : container.Measurable) (wanted : Point) :
    (placeWithin container wanted).x.toInt =
        min (max wanted.x.toInt 0) (max 0 (container.width.toInt - 40)) ∧
      (placeWithin container wanted).y.toInt =
        min (max wanted.y.toInt 0) (max 0 (container.height.toInt - 30)) := by
  have widthLeft : (container.width - leastWidth).toInt = container.width.toInt - 40 :=
    toInt_sub_of_le (by decide) measurable.1
  have heightLeft : (container.height - leastHeight).toInt = container.height.toInt - 30 :=
    toInt_sub_of_le (by decide) measurable.2
  have zero : (0 : Int32).toInt = 0 := rfl
  constructor
  · rw [placeWithin, toInt_clamp _ (by rw [toInt_max]; omega), toInt_max, widthLeft, zero]
    omega
  · rw [placeWithin, toInt_clamp _ (by rw [toInt_max]; omega), toInt_max, heightLeft, zero]
    omega

/-- A size is limited to that of the container, but not below the least one. -/
theorem toInt_sizeWithin (container wanted : Size) :
    (sizeWithin container wanted).width.toInt =
        min (max wanted.width.toInt 40) (max 40 container.width.toInt) ∧
      (sizeWithin container wanted).height.toInt =
        min (max wanted.height.toInt 30) (max 30 container.height.toInt) := by
  have least : leastWidth.toInt = 40 ∧ leastHeight.toInt = 30 := by decide
  constructor
  · rw [sizeWithin, toInt_clamp _ (by rw [toInt_max]; omega), toInt_max, least.1]
    omega
  · rw [sizeWithin, toInt_clamp _ (by rw [toInt_max]; omega), toInt_max, least.2]
    omega

end Order

/-! ## One order -/

/-- The requests that rules can make of a view: places from where a view of the least size lies in
the container, sizes between the least one and the container's, and changes that the view
supports.  Without a container there is no place, size or slot. -/
def Surface.Admits (surface : Surface) : Request → Prop
  | .opacity _ => True
  | .move position => ∃ container, surface.container = some container ∧
      (0 ≤ position.x.toInt ∧ position.x.toInt ≤ max 0 (container.width.toInt - 40)) ∧
      (0 ≤ position.y.toInt ∧ position.y.toInt ≤ max 0 (container.height.toInt - 30))
  | .resize size => ∃ container, surface.container = some container ∧
      (40 ≤ size.width.toInt ∧ size.width.toInt ≤ max 40 container.width.toInt) ∧
      (30 ≤ size.height.toInt ∧ size.height.toInt ≤ max 30 container.height.toInt)
  | .maximized _ => surface.canMaximize = true
  | .minimized _ => surface.canMinimize = true
  | .snap _ => surface.container.isSome = true

/-- Whatever container the view has, the least size can be taken off it. -/
def Surface.Measurable (surface : Surface) : Prop :=
  ∀ container, surface.container = some container → container.Measurable

namespace Surface

variable {surface : Surface} {container : Size}

/-- A place within the container is admitted. -/
theorem admits_move (inside : surface.container = some container)
    (measurable : container.Measurable) (wanted : Point) :
    surface.Admits (.move (Order.placeWithin container wanted)) := by
  obtain ⟨x, y⟩ := Order.toInt_placeWithin measurable wanted
  exact ⟨container, inside, by omega, by omega⟩

/-- A size within the container is admitted. -/
theorem admits_resize (inside : surface.container = some container) (wanted : Size) :
    surface.Admits (.resize (Order.sizeWithin container wanted)) := by
  obtain ⟨width, height⟩ := Order.toInt_sizeWithin container wanted
  exact ⟨container, inside, by omega, by omega⟩

end Surface

namespace Order

variable {order : Order} {surface : Surface}

/-- Requests that need a container are made for the container that there is. -/
theorem exists_of_inContainer {requests : Size → List Request} {issued : List Request}
    (accepted : order.inContainer surface requests = .ok issued) :
    ∃ container, surface.container = some container ∧ issued = requests container := by
  unfold inContainer at accepted
  split at accepted
  · next container inside =>
    cases accepted
    exact ⟨container, inside, rfl⟩
  · cases accepted

theorem of_ifAllowed {allowed : Bool} {requests issued : List Request}
    (accepted : order.ifAllowed allowed requests = .ok issued) :
    allowed = true ∧ issued = requests := by
  unfold ifAllowed at accepted
  split at accepted
  · next yes =>
    cases accepted
    exact ⟨yes, rfl⟩
  · cases accepted

/-- The requests that an accepted order amounts to are admitted. -/
theorem admits_of_requests {current : Single} {issued : List Request}
    (measurable : surface.Measurable) (accepted : order.requests surface current = .ok issued) :
    ∀ request ∈ issued, surface.Admits request := by
  intro request member
  cases order with
  | opacity wanted =>
    cases accepted
    split at member
    · cases List.mem_singleton.mp member
      trivial
    · cases member
  | geometry position size =>
    obtain ⟨container, inside, rfl⟩ := exists_of_inContainer accepted
    rcases List.mem_cons.mp member with rfl | second
    · exact Surface.admits_resize inside size
    · cases List.mem_singleton.mp second
      exact Surface.admits_move inside (measurable container inside) position
  | maximize wanted =>
    obtain ⟨allowed, rfl⟩ := of_ifAllowed accepted
    cases List.mem_singleton.mp member
    exact allowed
  | minimize wanted =>
    obtain ⟨allowed, rfl⟩ := of_ifAllowed accepted
    cases List.mem_singleton.mp member
    exact allowed
  | snap slot =>
    obtain ⟨container, inside, rfl⟩ := exists_of_inContainer accepted
    cases List.mem_singleton.mp member
    show surface.container.isSome = true
    rw [inside]
    rfl
  | move position =>
    obtain ⟨container, inside, rfl⟩ := exists_of_inContainer accepted
    cases List.mem_singleton.mp member
    exact Surface.admits_move inside (measurable container inside) position
  | resize size =>
    obtain ⟨container, inside, rfl⟩ := exists_of_inContainer accepted
    cases List.mem_singleton.mp member
    exact Surface.admits_resize inside size

end Order

/-! ## Views -/

theorem exists_of_bind_eq_ok {E A B : Type} {first : Except E A} {next : A → Except E B} {b : B}
    (accepted : first.bind next = .ok b) : ∃ a, first = .ok a ∧ next a = .ok b := by
  cases first with
  | error fault => cases accepted
  | ok a => exact ⟨a, rfl, accepted⟩

namespace View

variable (view : View)

theorem receiveAll_cons (request : Request) (rest : List Request) :
    view.receiveAll (request :: rest) = (view.receive request).receiveAll rest := rfl

theorem receiveAll_append (front back : List Request) :
    view.receiveAll (front ++ back) = (view.receiveAll front).receiveAll back :=
  List.foldl_append

/-- Requests do not change the surface of a view. -/
@[simp]
theorem surface_receiveAll (issued : List Request) :
    (view.receiveAll issued).surface = view.surface := by
  induction issued generalizing view with
  | nil => rfl
  | cons request rest ih => rw [receiveAll_cons, ih]; rfl

/-- A view keeps its requests in order of arrival. -/
theorem requests_receiveAll (issued : List Request) :
    (view.receiveAll issued).requests = view.requests ++ issued := by
  induction issued generalizing view with
  | nil => rw [List.append_nil]; rfl
  | cons request rest ih => rw [receiveAll_cons, ih, List.append_cons]; rfl

/-- How a view appears is what its requests make of how it appeared before them. -/
theorem appearance_receiveAll (issued : List Request) :
    (view.receiveAll issued).appearance = issued.foldl Appearance.after view.appearance := by
  induction issued generalizing view with
  | nil => rfl
  | cons request rest ih => rw [receiveAll_cons, ih]; rfl

/-- Why an action is refused, or the requests that it comes to. -/
def response (action : Action) : Except ActionFault (List Request) :=
  (Order.ofAction action.name action.arguments).bind
    fun order => order.requests view.surface view.appearance.opacity

/-- The requests that an action comes to; a refused one comes to none. -/
def issued (action : Action) : List Request := (view.response action).toOption.getD []

/-- The requests that actions in order come to. -/
def issuedAll : List Action → View → List Request
  | [], _ => []
  | action :: rest, view =>
    view.issued action ++ issuedAll rest (view.receiveAll (view.issued action))

/-- An action is answered by its response, and the view receives the requests that it issues. -/
theorem execute_eq (action : Action) :
    execute action.name action.arguments view =
      ⟨(view.response action).map fun _ => (), (view.issued action).flatMap Request.events,
        view.receiveAll (view.issued action)⟩ := by
  unfold execute issued response
  cases (Order.ofAction action.name action.arguments).bind
    fun order => order.requests view.surface view.appearance.opacity <;> rfl

/-- Actions in order leave the view as the requests that they issue do. -/
theorem execute_after (actions : List Action) :
    Executor.after execute actions view = view.receiveAll (issuedAll actions view) := by
  induction actions generalizing view with
  | nil => rfl
  | cons action rest ih => rw [Executor.after_cons, ih, execute_eq, issuedAll, receiveAll_append]

/-- An action comes to nothing, or to the requests of an order. -/
theorem issued_cases (action : Action) : view.issued action = [] ∨
    ∃ order, Order.ofAction action.name action.arguments = .ok order ∧
      order.requests view.surface view.appearance.opacity = .ok (view.issued action) := by
  unfold issued
  cases accepted : view.response action with
  | error fault => exact .inl rfl
  | ok requests => exact .inr (exists_of_bind_eq_ok accepted)

variable {view}

/-- An action comes to admitted requests. -/
theorem admits_issued (measurable : view.surface.Measurable) (action : Action) :
    ∀ request ∈ view.issued action, view.surface.Admits request := by
  rcases view.issued_cases action with nothing | ⟨order, -, made⟩
  · rw [nothing]
    exact fun _ member => absurd member List.not_mem_nil
  · exact Order.admits_of_requests measurable made

/-- So do actions in order. -/
theorem admits_issuedAll (measurable : view.surface.Measurable) (actions : List Action) :
    ∀ request ∈ issuedAll actions view, view.surface.Admits request := by
  induction actions generalizing view with
  | nil => exact fun _ member => absurd member List.not_mem_nil
  | cons action rest ih =>
    have same : (view.receiveAll (view.issued action)).surface = view.surface :=
      view.surface_receiveAll _
    intro request member
    rcases List.mem_append.mp member with here | there
    · exact admits_issued measurable action request here
    · exact same ▸ ih (same ▸ measurable) request there

/-- Whatever actions a view is asked for, it receives admitted requests. -/
theorem exists_execute_after (measurable : view.surface.Measurable) (actions : List Action) :
    ∃ issued, Executor.after execute actions view = view.receiveAll issued ∧
      ∀ request ∈ issued, view.surface.Admits request :=
  ⟨issuedAll actions view, execute_after view actions, admits_issuedAll measurable actions⟩

end View

/-! ## Applications -/

/-- A rule or a rule base applied to a view on a signal.  Its conditions may read anything. -/
inductive Application where
  | ofRule (rule : Rule) (signal : String) (access : View → Access)
  | ofBase (base : RuleBase) (signal : String) (access : View → Access)

namespace Application

/-- The view after an application. -/
def carryOut : Application → View → View
  | ofRule rule signal access, view => (rule.apply signal access View.execute view).state
  | ofBase base signal access, view => (base.apply signal access View.execute view).state

/-- The view after applications in order. -/
def carryOutAll : List Application → View → View
  | [], view => view
  | application :: rest, view => carryOutAll rest (application.carryOut view)

/-- An application asks the view for actions one after the other, and changes it in no other way. -/
theorem exists_carryOut_eq_after (application : Application) (view : View) :
    ∃ actions, application.carryOut view = Executor.after View.execute actions view := by
  cases application with
  | ofRule rule signal access =>
    exact ⟨rule.dueActions signal (access view), rule.apply_state View.execute access signal view⟩
  | ofBase base signal access => exact base.exists_apply_state signal access View.execute view

/-- However many applications there are, the view is asked for actions one after the other. -/
theorem exists_carryOutAll_eq_after (applications : List Application) (view : View) :
    ∃ actions, carryOutAll applications view = Executor.after View.execute actions view := by
  induction applications generalizing view with
  | nil => exact ⟨[], rfl⟩
  | cons application rest ih =>
    obtain ⟨first, firstState⟩ := application.exists_carryOut_eq_after view
    obtain ⟨others, othersState⟩ := ih (application.carryOut view)
    refine ⟨first ++ others, ?_⟩
    rw [carryOutAll, othersState, firstState, Executor.after_append]

end Application

/-! ## Where a view is seen -/

/-- The view and its container overlap by at least the least size. -/
def Appearance.ReachesInto (appearance : Appearance) (container : Size) : Prop :=
  40 ≤ min (appearance.position.x.toInt + appearance.size.width.toInt) container.width.toInt -
      max appearance.position.x.toInt 0 ∧
    30 ≤ min (appearance.position.y.toInt + appearance.size.height.toInt) container.height.toInt -
      max appearance.position.y.toInt 0

/-- The upper left corner leaves room for a view of the least size, and the view is at least that
large.  Unlike the overlap this is kept when the view is moved without being resized, and when it
is resized without being moved. -/
structure Appearance.KeepsTo (appearance : Appearance) (container : Size) : Prop where
  x : 0 ≤ appearance.position.x.toInt ∧
    appearance.position.x.toInt ≤ container.width.toInt - 40
  y : 0 ≤ appearance.position.y.toInt ∧
    appearance.position.y.toInt ≤ container.height.toInt - 30
  width : 40 ≤ appearance.size.width.toInt
  height : 30 ≤ appearance.size.height.toInt

namespace Appearance.KeepsTo

variable {appearance : Appearance} {container : Size}

/-- A view that keeps to its container reaches into it. -/
theorem reachesInto (keeps : appearance.KeepsTo container) : appearance.ReachesInto container := by
  have := keeps.x
  have := keeps.y
  have := keeps.width
  have := keeps.height
  exact ⟨by omega, by omega⟩

/-- An admitted request moves a view to where it keeps to its container, or resizes it to a size
that does, or leaves both alone. -/
theorem after (keeps : appearance.KeepsTo container) {surface : Surface}
    (inside : surface.container = some container) (wide : 40 ≤ container.width.toInt)
    (high : 30 ≤ container.height.toInt) {request : Request} (admitted : surface.Admits request) :
    (appearance.after request).KeepsTo container := by
  cases request with
  | opacity _ => exact ⟨keeps.x, keeps.y, keeps.width, keeps.height⟩
  | maximized _ => exact ⟨keeps.x, keeps.y, keeps.width, keeps.height⟩
  | minimized _ => exact ⟨keeps.x, keeps.y, keeps.width, keeps.height⟩
  | snap _ => exact keeps
  | move position =>
    obtain ⟨same, isSame, x, y⟩ := admitted
    cases inside.symm.trans isSame
    have right : position.x.toInt ≤ container.width.toInt - 40 := by omega
    have bottom : position.y.toInt ≤ container.height.toInt - 30 := by omega
    exact ⟨⟨x.1, right⟩, ⟨y.1, bottom⟩, keeps.width, keeps.height⟩
  | resize size =>
    obtain ⟨same, isSame, width, height⟩ := admitted
    exact ⟨keeps.x, keeps.y, width.1, height.1⟩

/-- What keeps to the container goes on doing so when admitted requests arrive. -/
theorem receiveAll {view : View} (keeps : view.appearance.KeepsTo container)
    (inside : view.surface.container = some container) (wide : 40 ≤ container.width.toInt)
    (high : 30 ≤ container.height.toInt) {issued : List Request}
    (admitted : ∀ request ∈ issued, view.surface.Admits request) :
    (view.receiveAll issued).appearance.KeepsTo container := by
  induction issued generalizing view with
  | nil => exact keeps
  | cons request rest ih =>
    have next := keeps.after inside wide high (admitted request List.mem_cons_self)
    exact ih next inside fun other member => admitted other (List.mem_cons_of_mem _ member)

end Appearance.KeepsTo

/-- Whatever rules and rule bases are applied to a view, and on whatever signals, it receives only
requests that it admits.  If it is at first where and as large as a new view is, and its container
is no smaller than the least size, the two overlap by that size, between any two requests. -/
theorem View.stays_in_container (view : View) (measurable : view.surface.Measurable)
    (applications : List Application) :
    ∃ issued, Application.carryOutAll applications view = view.receiveAll issued ∧
      (Application.carryOutAll applications view).requests = view.requests ++ issued ∧
      (∀ request ∈ issued, view.surface.Admits request) ∧
      ∀ container, view.surface.container = some container →
        40 ≤ container.width.toInt → 30 ≤ container.height.toInt →
        view.appearance.position = ⟨0, 0⟩ → view.appearance.size = ⟨640, 480⟩ →
        ∀ front, front <+: issued → (view.receiveAll front).appearance.ReachesInto container := by
  obtain ⟨actions, asked⟩ := Application.exists_carryOutAll_eq_after applications view
  obtain ⟨issued, received, admitted⟩ := exists_execute_after measurable actions
  refine ⟨issued, asked.trans received, ?_, admitted, ?_⟩
  · rw [asked, received, requests_receiveAll]
  · intro container inside wide high position size front isFront
    have initially : view.appearance.KeepsTo container := by
      have x : view.appearance.position.x.toInt = 0 := by rw [position]; rfl
      have y : view.appearance.position.y.toInt = 0 := by rw [position]; rfl
      have width : view.appearance.size.width.toInt = 640 := by rw [size]; rfl
      have height : view.appearance.size.height.toInt = 480 := by rw [size]; rfl
      exact ⟨by omega, by omega, by omega, by omega⟩
    exact (initially.receiveAll inside wide high fun request member =>
      admitted request (isFront.subset member)).reachesInto

/-- Places and sizes far out of range become limits, and a change that the view does not support
becomes nothing. -/
theorem View.pushed_around_stays_in_container :
    let container : Size := ⟨100, 80⟩
    let surface : Surface := ⟨"term", "shell", .toplevel, some container, true, false⟩
    let view := View.new surface Order.highestOpacity
    let farOut : Rule := ⟨⟨"created", none⟩,
      [⟨"move", [.int 5000000000, .int (-7)]⟩, ⟨"resize", [.int (-1), .int 60]⟩,
        ⟨"minimize", []⟩]⟩
    let askew : Rule := ⟨⟨"maximized", none⟩,
      [⟨"set", [.string "geometry", .int 61, .int 9, .int 101, .int 29]⟩, ⟨"maximize", []⟩]⟩
    let applications : List Application :=
      [.ofRule farOut "created" View.access, .ofBase ⟨.standard, [farOut, askew]⟩ "maximized"
        View.access]
    surface.Measurable ∧
    ∃ issued, Application.carryOutAll applications view = view.receiveAll issued ∧
      issued = [.move ⟨60, 0⟩, .resize ⟨40, 60⟩, .resize ⟨100, 30⟩, .move ⟨60, 9⟩,
        .maximized true] ∧
      (∀ request ∈ issued, surface.Admits request) ∧
      ∀ front, front <+: issued → (view.receiveAll front).appearance.ReachesInto container := by
  intro container surface view farOut askew applications
  have measurable : surface.Measurable := by
    intro container inside
    cases inside
    exact ⟨by decide, by decide⟩
  obtain ⟨issued, received, kept, admitted, seen⟩ := view.stays_in_container measurable applications
  have requests : (Application.carryOutAll applications view).requests =
      [.move ⟨60, 0⟩, .resize ⟨40, 60⟩, .resize ⟨100, 30⟩, .move ⟨60, 9⟩, .maximized true] := by
    decide +kernel
  exact ⟨measurable, issued, received, kept.symm.trans requests, admitted,
    seen container rfl (by decide) (by decide) rfl rfl⟩

end ActiveRules
