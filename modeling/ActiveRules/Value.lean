import ActiveRules.Number.Shortest
import ActiveRules.Text.Numeral
import ActiveRules.Text.Quoted

/-!
# Values and comparisons

Properties of a subject and arguments of an action are values of five kinds.  Conditions relate
a property to a literal by one of seven comparisons.

## Main definitions

* `Value`, `Value.kindName`: the five kinds and their names in messages.
* `Value.spelling`: a value as a literal of the rule language.
* `Comparison`, `Comparison.symbol`: the seven comparisons.
* `Value.compare?`: whether a comparison holds; `none` if the two kinds do not allow it.

## Design notes

Two integers compare exactly.  A single-precision number against a double-precision one compares
in single precision, so that `0.1f` equals `0.1`; every other pair of numbers compares in double
precision.
-/

namespace ActiveRules

/-- A value that a property has or that an action takes. -/
inductive Value where
  | bool (value : Bool)
  | int (value : Int64)
  | single (value : Single)
  | double (value : Double)
  | string (value : String)
deriving BEq

/-- The relations that a condition can ask for. -/
inductive Comparison where
  | equal
  | unequal
  | contains
  | greater
  | atLeast
  | less
  | atMost
deriving DecidableEq

namespace Comparison

/-- How a comparison is written. -/
def symbol : Comparison → String
  | equal => "=="
  | unequal => "!="
  | contains => "contains"
  | greater => ">"
  | atLeast => ">="
  | less => "<"
  | atMost => "<="

/-- All comparisons, equality first. -/
def all : List Comparison := [equal, unequal, contains, greater, atLeast, less, atMost]

/-- Whether a comparison accepts two sides that stand in this order; containment is no matter of
order. -/
def accepts? : Comparison → Ordering → Option Bool
  | equal, order => some (order == .eq)
  | unequal, order => some (order != .eq)
  | greater, order => some (order == .gt)
  | atLeast, order => some (order != .lt)
  | less, order => some (order == .lt)
  | atMost, order => some (order != .gt)
  | contains, _ => none

end Comparison

/-- Is the first text a contiguous part of the second? -/
def Text.occursIn (part : List Char) : List Char → Bool
  | [] => part.isEmpty
  | c :: rest => part.isPrefixOf (c :: rest) || Text.occursIn part rest

namespace Value

/-- The name of a value's kind in messages. -/
def kindName : Value → String
  | bool _ => "bool"
  | int _ => "int"
  | single _ => "float"
  | double _ => "double"
  | string _ => "string"

/-- The text of a string value. -/
def string? : Value → Option String
  | string text => some text
  | _ => none

/-- The number of an integer value. -/
def int? : Value → Option Int64
  | int i => some i
  | _ => none

/-- A numeric value in double precision. -/
def double? : Value → Option Double
  | int i => some (.ofInt .double i.toInt)
  | single x => some (x.convert .double)
  | double x => some x
  | _ => none

/-- The order of two values other than truth values. -/
def order? : Value → Value → Option Ordering
  | int a, int b => some (Ord.compare a.toInt b.toInt)
  | string a, string b => some (Ord.compare a b)
  | single a, double b => a.compare (b.convert .single)
  | double a, single b => (a.convert .single).compare b
  | a, b => do Binary.compare (← a.double?) (← b.double?)

/-- Whether a comparison holds between two values; `none` if their kinds, or a number that is not
one, leave it undefined. -/
def compare? (a : Value) (comparison : Comparison) (b : Value) : Option Bool :=
  match comparison, a, b with
  | .contains, string whole, string part => some (Text.occursIn part.toList whole.toList)
  | .contains, _, _ => none
  | .equal, bool x, bool y => some (x == y)
  | .unequal, bool x, bool y => some (x != y)
  | _, bool _, bool _ => none
  | comparison, a, b => (order? a b).bind comparison.accepts?

/-- A number with a fraction in the notation of the rule language, which always has a point and
never an exponent.  Infinities and "not a number" have no such notation; their names are written
instead, and these read as identifiers. -/
def numberSpelling {F : Format} : Binary F → List Char
  | .nan => ['N', 'a', 'N']
  | .ordered negative rank =>
    let magnitude :=
      if rank.val < F.infinity then (Decimal.shortest F rank).positional else ['i', 'n', 'f']
    if negative then '-' :: magnitude else magnitude

/-- A value as a literal of the rule language. -/
def spelling : Value → List Char
  | bool true => ['t', 'r', 'u', 'e']
  | bool false => ['f', 'a', 'l', 's', 'e']
  | int i => Numeral.signed i.toInt
  | single x => numberSpelling x ++ ['f']
  | double x => numberSpelling x
  | string text => Quoted.encode text.toList

/-- The literal of a value as a text. -/
def text (value : Value) : String := String.ofList value.spelling

end Value

end ActiveRules
