/-!
# Snap slots

A view can be asked to snap to one of nine places of its container, each of which has a name.
-/

namespace ActiveRules

/-- The places that a view can snap to. -/
inductive Slot where
  | top
  | topRight
  | right
  | bottomRight
  | bottom
  | bottomLeft
  | left
  | topLeft
  | center
deriving DecidableEq

namespace Slot

/-- All slots, clockwise from the top, the center last. -/
def all : List Slot :=
  [top, topRight, right, bottomRight, bottom, bottomLeft, left, topLeft, center]

/-- The name of a slot. -/
def name : Slot → String
  | top => "top"
  | topRight => "top_right"
  | right => "right"
  | bottomRight => "bottom_right"
  | bottom => "bottom"
  | bottomLeft => "bottom_left"
  | left => "left"
  | topLeft => "top_left"
  | center => "center"

/-- The slot with this name. -/
def ofName? (name : String) : Option Slot := all.find? fun slot => slot.name == name

end Slot

end ActiveRules
