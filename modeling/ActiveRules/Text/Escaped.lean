import ActiveRules.Text.Unprintable

/-!
# Text shown for inspection

A text is shown for inspection between double quotes, and everything in it that could not be told
apart by eye is escaped.

## Main definitions

* `Text.escaped`: a text as it is shown for inspection.
-/

namespace ActiveRules.Text

/-- The hexadecimal digits of a code point, in lower case and without leading zeros. -/
def hexadecimal (n : Nat) : List Char := Nat.toDigits 16 n

/-- How a character is shown for inspection. -/
def escapeForInspection (c : Char) : List Char :=
  match c with
  | '\x00' => ['\\', '0']
  | '\t' => ['\\', 't']
  | '\r' => ['\\', 'r']
  | '\n' => ['\\', 'n']
  | '\\' => ['\\', '\\']
  | '"' => ['\\', '"']
  | c => if isPrintable c then [c] else ['\\', 'u', '\x7b'] ++ hexadecimal c.toNat ++ ['\x7d']

/-- A text as it is shown for inspection. -/
def escaped (text : String) : String :=
  .ofList ('"' :: text.toList.flatMap escapeForInspection ++ ['"'])

end ActiveRules.Text
