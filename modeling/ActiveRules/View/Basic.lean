import ActiveRules.Subject

/-!
# Views

The subjects that this library brings along are views: rectangles on a screen that belong to an
application.  What a view is cannot change; how it appears changes by requests, and a view keeps
every request that it received.

## Main definitions

* `Surface`: what a view is, and what may be asked of it.
* `Appearance`: how a view appears.
* `Request`: what a view can be asked for.
* `View`: a surface, its appearance and the requests so far.
* `View.access`: a view as a subject of conditions.
-/

namespace ActiveRules

/-- What a view is used for.  A role that rules have no name for keeps its own. -/
inductive Role where
  | toplevel
  | unmanaged
  | desktopEnvironment
  | other (name : String)
deriving DecidableEq

namespace Role

/-- The name of a role in conditions, if it has one. -/
def name? : Role → Option String
  | toplevel => some "TOPLEVEL"
  | unmanaged => some "UNMANAGED"
  | desktopEnvironment => some "DESKTOP_ENVIRONMENT"
  | other _ => none

/-- The role as messages show it. -/
def text : Role → String
  | other name => name
  | role => role.name?.getD ""

/-- The role with this name in conditions, or else one that conditions cannot name. -/
def ofName (name : String) : Role :=
  ([toplevel, unmanaged, desktopEnvironment].find? fun role => role.name? == some name).getD
    (.other name)

end Role

/-- A width and a height. -/
structure Size where
  width : Int32
  height : Int32
deriving DecidableEq

/-- A place, counted from the upper left corner. -/
structure Point where
  x : Int32
  y : Int32
deriving DecidableEq

/-- What a view is: whose it is, the container in which it lives, if any, and which changes of
its state it allows. -/
structure Surface where
  application : String
  title : String
  role : Role
  container : Option Size
  canMaximize : Bool
  canMinimize : Bool
deriving DecidableEq

/-- How a view appears. -/
structure Appearance where
  opacity : Single
  position : Point
  size : Size
  maximized : Bool
  minimized : Bool
deriving DecidableEq

/-- What a view can be asked for. -/
inductive Request where
  | opacity (opacity : Single)
  | move (position : Point)
  | resize (size : Size)
  | maximized (maximized : Bool)
  | minimized (minimized : Bool)
  | snap (slot : Slot)
deriving DecidableEq

/-- How a view appears before any request, apart from its opacity. -/
def Appearance.initial (opacity : Single) : Appearance :=
  ⟨opacity, ⟨0, 0⟩, ⟨640, 480⟩, false, false⟩

/-- The appearance after a request.  Where a view goes when it snaps is up to its host. -/
def Appearance.after (appearance : Appearance) : Request → Appearance
  | .opacity opacity => { appearance with opacity }
  | .move position => { appearance with position }
  | .resize size => { appearance with size }
  | .maximized maximized => { appearance with maximized }
  | .minimized minimized => { appearance with minimized }
  | .snap _ => appearance

/-- The events that a request gives rise to. -/
def Request.events : Request → List Event
  | opacity level => [.opacitySet level]
  | snap slot => [.snapRequested slot]
  | _ => []

/-- A view: what it is, how it appears, and the requests that it received, in order. -/
structure View where
  surface : Surface
  appearance : Appearance
  requests : List Request
deriving DecidableEq

namespace View

/-- The container of a view of which nothing else is said. -/
def standardContainer : Size := ⟨1920, 1080⟩

/-- A view before any request. -/
def new (surface : Surface) (opacity : Single) : View :=
  ⟨surface, .initial opacity, []⟩

/-- The view after a request, which it also keeps. -/
def receive (view : View) (request : Request) : View :=
  ⟨view.surface, view.appearance.after request, view.requests ++ [request]⟩

/-- The view after requests, in order. -/
def receiveAll (view : View) (requests : List Request) : View :=
  requests.foldl receive view

/-- The view with the requests so far forgotten. -/
def forgetRequests (view : View) : View := ⟨view.surface, view.appearance, []⟩

/-- A view as conditions see it: its application, its title and its role. -/
def access (view : View) : Access where
  read property :=
    match property with
    | "app_id" => .ok (.string view.surface.application)
    | "title" => .ok (.string view.surface.title)
    | "role" =>
      match view.surface.role.name? with
      | some name => .ok (.string name)
      | none => .error (.unsupportedValue "role" view.surface.role.text)
    | _ => .error (.unknownProperty property)
  events property :=
    if ["app_id", "title", "role"].contains property then [] else [.noSuchProperty property]

end View

end ActiveRules
