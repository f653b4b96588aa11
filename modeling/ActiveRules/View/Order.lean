import ActiveRules.View.Basic

/-!
# Orders to a view

An action of a rule becomes a request to a view in two steps.  First its name and arguments are
read as an order, which no view is needed for.  Then the order is weighed against what the view
is: it is refused, or it becomes requests that keep the view within its container.

## Main definitions

* `Order`: a well-formed action on a view.
* `Order.ofAction`: the order that a name and arguments stand for.
* `Order.requests`: the requests that an order amounts to for a given view.
* `View.execute`: views as executors of actions.

## Design notes

A fault leaves a view as it was, because all requests of an order are known before the first one
is carried out.
-/

namespace ActiveRules

/-- A well-formed action on a view. -/
inductive Order where
  | opacity (opacity : Single)
  | geometry (position : Point) (size : Size)
  | maximize (wanted : Bool)
  | minimize (wanted : Bool)
  | snap (slot : Slot)
  | move (position : Point)
  | resize (size : Size)
deriving DecidableEq

namespace Order

/-- An integer as a coordinate.  Integers out of range become the nearest coordinate. -/
def saturate (i : Int64) : Int32 :=
  if i.toInt < Int32.minValue.toInt then .minValue
  else if Int32.maxValue.toInt < i.toInt then .maxValue
  else .ofInt i.toInt

/-- The text of an argument. -/
def textArgument (action : String) (position : Nat) (argument : Value) :
    Except ActionFault String :=
  match argument.string? with
  | some text => .ok text
  | none => .error (.argumentKind action position "string" argument.kindName)

/-- The coordinate of an argument. -/
def coordinateArgument (action : String) (position : Nat) (argument : Value) :
    Except ActionFault Int32 :=
  match argument.int? with
  | some i => .ok (saturate i)
  | none => .error (.argumentKind action position "int" argument.kindName)

/-- The opacity of an argument. -/
def opacityArgument (action : String) (position : Nat) (argument : Value) :
    Except ActionFault Single :=
  match argument with
  | .single x => .ok x
  | .double x => .ok (x.convert .single)
  | other => .error (.argumentKind action position "float" other.kindName)

/-- The slot with this name. -/
def slotNamed (name : String) : Except ActionFault Slot :=
  match Slot.ofName? name with
  | some slot => .ok slot
  | none => .error (.unknownSlot name)

/-- The order of an action without arguments. -/
def plain (action : String) (order : Order) (arguments : List Value) : Except ActionFault Order :=
  match arguments with
  | [] => .ok order
  | _ => .error (.argumentCount action 0 arguments.length)

/-- The order to change a setting, which the first argument names. -/
def ofSetting (arguments : List Value) : Except ActionFault Order :=
  match arguments with
  | [] => .error (.argumentCount "set" 2 0)
  | setting :: values => do
    match ← textArgument "set" 0 setting with
    | "alpha" =>
      match values with
      | [level] => return .opacity (← opacityArgument "set alpha" 1 level)
      | _ => .error (.argumentCount "set alpha" 2 arguments.length)
    | "geometry" =>
      match values with
      | [x, y, width, height] =>
        let x ← coordinateArgument "set geometry" 1 x
        let y ← coordinateArgument "set geometry" 2 y
        let width ← coordinateArgument "set geometry" 3 width
        let height ← coordinateArgument "set geometry" 4 height
        return .geometry ⟨x, y⟩ ⟨width, height⟩
      | _ => .error (.argumentCount "set geometry" 5 arguments.length)
    | other => .error (.unknownSetting other)

/-- The order that the name and the arguments of an action stand for. -/
def ofAction (name : String) (arguments : List Value) : Except ActionFault Order :=
  match name with
  | "set" => ofSetting arguments
  | "maximize" => plain name (.maximize true) arguments
  | "unmaximize" => plain name (.maximize false) arguments
  | "minimize" => plain name (.minimize true) arguments
  | "unminimize" => plain name (.minimize false) arguments
  | "snap" =>
    match arguments with
    | [place] => do
      let text ← textArgument name 0 place
      return .snap (← slotNamed text)
    | _ => .error (.argumentCount name 1 arguments.length)
  | "move" =>
    match arguments with
    | [x, y] => do
      let x ← coordinateArgument name 0 x
      let y ← coordinateArgument name 1 y
      return .move ⟨x, y⟩
    | _ => .error (.argumentCount name 2 arguments.length)
  | "resize" =>
    match arguments with
    | [width, height] => do
      let width ← coordinateArgument name 0 width
      let height ← coordinateArgument name 1 height
      return .resize ⟨width, height⟩
    | _ => .error (.argumentCount name 2 arguments.length)
  | _ => .error (.unknownAction name)

/-- What an order is called in faults. -/
def name : Order → String
  | opacity _ => "set alpha"
  | geometry _ _ => "set geometry"
  | maximize true => "maximize"
  | maximize false => "unmaximize"
  | minimize true => "minimize"
  | minimize false => "unminimize"
  | snap _ => "snap"
  | move _ => "move"
  | resize _ => "resize"

/-! ### Limits -/

/-- The lowest opacity that a view is given. -/
def lowestOpacity : Single := .ofRatio .single false 1 10

/-- The highest opacity that a view is given. -/
def highestOpacity : Single := .ofRatio .single false 1 1

/-- Opacities no further apart than this count as the same: the distance from one to the next
larger single-precision number. -/
def opacityTolerance : Single := .ofRatio .single false 1 (Nat.pow 2 23)

/-- The least width that a view is given. -/
def leastWidth : Int32 := 40

/-- The least height that a view is given. -/
def leastHeight : Int32 := 30

/-- The nearest coordinate between two bounds. -/
def clamp (x low high : Int32) : Int32 :=
  if x < low then low else if high < x then high else x

/-- The place nearest to the wanted one from where a view of the least size reaches into its
container as a whole. -/
def placeWithin (container : Size) (wanted : Point) : Point :=
  ⟨clamp wanted.x 0 (max (container.width - leastWidth) 0),
    clamp wanted.y 0 (max (container.height - leastHeight) 0)⟩

/-- The size nearest to the wanted one between the least size and the container's. -/
def sizeWithin (container : Size) (wanted : Size) : Size :=
  ⟨clamp wanted.width leastWidth (max container.width leastWidth),
    clamp wanted.height leastHeight (max container.height leastHeight)⟩

/-! ### Requests -/

/-- Requests that need a container, made from the one that the view has. -/
def inContainer (order : Order) (surface : Surface) (requests : Size → List Request) :
    Except ActionFault (List Request) :=
  match surface.container with
  | some container => .ok (requests container)
  | none => .error (.noContainer order.name)

/-- Requests that the view must allow. -/
def ifAllowed (order : Order) (allowed : Bool) (requests : List Request) :
    Except ActionFault (List Request) :=
  if allowed then .ok requests else .error (.unsupportedState order.name)

/-- The requests that an order amounts to for a view with a given opacity. -/
def requests (order : Order) (surface : Surface) (current : Single) :
    Except ActionFault (List Request) :=
  match order with
  | opacity wanted =>
    let level := wanted.clamp lowestOpacity highestOpacity
    .ok (if opacityTolerance.isLess (current.distance level) then [.opacity level] else [])
  | geometry position size =>
    order.inContainer surface fun container =>
      [.resize (sizeWithin container size), .move (placeWithin container position)]
  | maximize wanted => order.ifAllowed surface.canMaximize [.maximized wanted]
  | minimize wanted => order.ifAllowed surface.canMinimize [.minimized wanted]
  | snap slot => order.inContainer surface fun _ => [.snap slot]
  | move position =>
    order.inContainer surface fun container => [.move (placeWithin container position)]
  | resize size =>
    order.inContainer surface fun container => [.resize (sizeWithin container size)]

end Order

/-- Carries out an action on a view. -/
def View.execute : Executor View := fun name arguments view =>
  match (Order.ofAction name arguments).bind
      fun order => order.requests view.surface view.appearance.opacity with
  | .error fault => ⟨.error fault, [], view⟩
  | .ok requests => ⟨.ok (), requests.flatMap Request.events, view.receiveAll requests⟩

end ActiveRules
