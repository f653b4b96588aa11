/-!
# Quoted text

A text literal stands between double quotes on one line.  A backslash takes the character after
it: four escapes have a meaning, and every other one stands for itself, backslash included.

## Main definitions

* `Quoted.encode`: a text as a literal.
* `Quoted.scan`: what follows an opening quote, split at the quote that closes it.
-/

namespace ActiveRules.Quoted

/-- How a character is written between quotes. -/
def escape : Char → List Char
  | '"' => ['\\', '"']
  | '\\' => ['\\', '\\']
  | '\n' => ['\\', 'n']
  | '\t' => ['\\', 't']
  | c => [c]

/-- What a backslash and the character after it stand for. -/
def unescape : Char → List Char
  | '"' => ['"']
  | '\\' => ['\\']
  | 'n' => ['\n']
  | 't' => ['\t']
  | c => ['\\', c]

/-- A text between quotes, with the four characters that need it escaped. -/
def encode (content : List Char) : List Char :=
  '"' :: content.flatMap escape ++ ['"']

/-- A literal that was found: what it stands for, how it is spelled, and what follows it. -/
structure Literal where
  content : List Char
  spelling : List Char
  rest : List Char
deriving DecidableEq

/-- The same literal with one more piece in front of it. -/
def Literal.precededBy (content spelling : List Char) (literal : Literal) : Literal :=
  ⟨content ++ literal.content, spelling ++ literal.spelling, literal.rest⟩

/-- Reads on from an opening quote up to the quote that closes the literal.  A line feed, escaped
or not, and the end of the text leave the literal open: it has no reading. -/
def scan : List Char → Option Literal
  | '"' :: rest => some ⟨[], ['"'], rest⟩
  | '\n' :: _ => none
  | '\\' :: '\n' :: _ => none
  | '\\' :: c :: rest => (scan rest).map (.precededBy (unescape c) ['\\', c])
  | '\\' :: [] => none
  | c :: rest => (scan rest).map (.precededBy [c] [c])
  | [] => none

/-- A literal and what follows it make up the text. -/
theorem scan_append {text : List Char} {literal : Literal} (found : scan text = some literal) :
    literal.spelling ++ literal.rest = text := by
  fun_induction scan text generalizing literal with
  | case1 rest => cases found; rfl
  | case2 => cases found
  | case3 => cases found
  | case4 c rest line ih =>
    obtain ⟨inner, inside, rfl⟩ := Option.map_eq_some_iff.mp found
    simp [Literal.precededBy, ih inside]
  | case5 => cases found
  | case6 c rest _ _ _ _ _ ih =>
    obtain ⟨inner, inside, rfl⟩ := Option.map_eq_some_iff.mp found
    simp [Literal.precededBy, ih inside]
  | case7 => cases found

end ActiveRules.Quoted
