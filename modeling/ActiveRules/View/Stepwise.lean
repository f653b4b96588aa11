import ActiveRules.View.Order

/-!
# Views changed step by step

`View.execute` knows all requests of an action before the first one is carried out.  The same
action can be gone through one check and one request at a time: whether it is refused is then found
out on the way, possibly behind a request that is already carried out, and the operations on the
way need not be defined, such as the third of two arguments.

## Main definitions

* `Progress`: how far an action has come.
* `Step`: a piece of an action, which goes on, is refused or breaks down.
* `Step.perform`: the steps of an action.
* `View.executeStepwise`: views as executors of actions, step by step.

## Design notes

An operation that need not be defined is an `Option`, and a step that meets `none` breaks down: it
leaves neither an answer nor a view.  A refused step leaves the view as the steps before it made
it.
-/

namespace ActiveRules

/-- How far an action has come: the view by now, and the events so far. -/
structure Progress where
  view : View
  log : List Event

/-- The progress by one more request. -/
def Progress.after (progress : Progress) (request : Request) : Progress :=
  ⟨progress.view.receive request, progress.log ++ request.events⟩

/-- A piece of an action.  It goes on, is refused or breaks down. -/
abbrev Step (A : Type) := ExceptT ActionFault (StateT Progress Option) A

namespace Step

/-! ### Operations that need not be defined -/

/-- The difference of two coordinates, if that is a coordinate. -/
def difference? (a b : Int32) : Option Int32 :=
  if Int32.minValue.toInt ≤ a.toInt - b.toInt ∧ a.toInt - b.toInt ≤ Int32.maxValue.toInt then
    some (a - b)
  else none

/-- The nearest coordinate between two bounds, if these do not exclude each other. -/
def clamp? (x low high : Int32) : Option Int32 :=
  if low ≤ high then some (Order.clamp x low high) else none

/-- The nearest number between two bounds, if these are numbers and do not exclude each other. -/
def clampNumber? (x low high : Single) : Option Single := do
  if (← low.compare high) = .gt then none else some (x.clamp low high)

/-! ### Checks and requests -/

/-- Refuses another number of arguments. -/
def arity (action : String) (arguments : List Value) (expected : Nat) : Step Unit :=
  if arguments.length = expected then return
  else throw (.argumentCount action expected arguments.length)

/-- The text at a position of the arguments. -/
def text (action : String) (arguments : List Value) (position : Nat) : Step String := do
  let argument ← arguments[position]?
  Order.textArgument action position argument

/-- The coordinate at a position of the arguments. -/
def coordinate (action : String) (arguments : List Value) (position : Nat) : Step Int32 := do
  let argument ← arguments[position]?
  Order.coordinateArgument action position argument

/-- The container of a surface, which an action needs. -/
def containerOf (action : String) (surface : Surface) : Except ActionFault Size :=
  match surface.container with
  | some size => .ok size
  | none => .error (.noContainer action)

/-- The container of the view. -/
def container (action : String) : Step Size := do
  containerOf action (← get).view.surface

/-- Carries out a request. -/
def request (made : Request) : Step Unit := modify fun progress => progress.after made

/-- Moves the view as near to a place as its container allows. -/
def moveView (action : String) (wanted : Point) : Step Unit := do
  let bounds ← container action
  let x ← clamp? wanted.x 0 (max (← difference? bounds.width Order.leastWidth) 0)
  let y ← clamp? wanted.y 0 (max (← difference? bounds.height Order.leastHeight) 0)
  request (.move ⟨x, y⟩)

/-- Resizes the view as near to a size as its container allows. -/
def resizeView (action : String) (wanted : Size) : Step Unit := do
  let bounds ← container action
  let width ← clamp? wanted.width Order.leastWidth (max bounds.width Order.leastWidth)
  let height ← clamp? wanted.height Order.leastHeight (max bounds.height Order.leastHeight)
  request (.resize ⟨width, height⟩)

/-- Changes the opacity of the view, unless that is close enough already. -/
def changeOpacity (wanted : Single) : Step Unit := do
  let level ← clampNumber? wanted Order.lowestOpacity Order.highestOpacity
  if Order.opacityTolerance.isLess ((← get).view.appearance.opacity.distance level) then
    request (.opacity level)

/-- Makes a request that the view must allow. -/
def requestIf (allowed : Surface → Bool) (action : String) (made : Request) : Step Unit := do
  if allowed (← get).view.surface then request made else throw (.unsupportedState action)

/-! ### Actions -/

/-- The steps of changing a setting. -/
def performSetting (arguments : List Value) : Step Unit := do
  if arguments.isEmpty then throw (.argumentCount "set" 2 0)
  match ← text "set" arguments 0 with
  | "alpha" =>
    arity "set alpha" arguments 2
    let level ← arguments[1]?
    changeOpacity (← Order.opacityArgument "set alpha" 1 level)
  | "geometry" =>
    arity "set geometry" arguments 5
    let x ← coordinate "set geometry" arguments 1
    let y ← coordinate "set geometry" arguments 2
    let width ← coordinate "set geometry" arguments 3
    let height ← coordinate "set geometry" arguments 4
    resizeView "set geometry" ⟨width, height⟩
    moveView "set geometry" ⟨x, y⟩
  | other => throw (.unknownSetting other)

/-- The steps of an action. -/
def perform (name : String) (arguments : List Value) : Step Unit :=
  match name with
  | "set" => performSetting arguments
  | "maximize" | "unmaximize" => do
    arity name arguments 0
    requestIf Surface.canMaximize name (.maximized (name == "maximize"))
  | "minimize" | "unminimize" => do
    arity name arguments 0
    requestIf Surface.canMinimize name (.minimized (name == "minimize"))
  | "snap" => do
    arity name arguments 1
    let slot ← Order.slotNamed (← text name arguments 0)
    let _ ← container name
    request (.snap slot)
  | "move" => do
    arity name arguments 2
    let x ← coordinate name arguments 0
    let y ← coordinate name arguments 1
    moveView name ⟨x, y⟩
  | "resize" => do
    arity name arguments 2
    let width ← coordinate name arguments 0
    let height ← coordinate name arguments 1
    resizeView name ⟨width, height⟩
  | _ => throw (.unknownAction name)

end Step

/-- Carries out an action on a view step by step, if no step breaks down. -/
def View.executeStepwise (name : String) (arguments : List Value) (view : View) :
    Option (Execution View) := do
  let (result, progress) ← (Step.perform name arguments).run.run ⟨view, []⟩
  return ⟨result, progress.log, progress.view⟩

end ActiveRules
