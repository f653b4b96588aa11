/-!
# Blanks and lines

Two notions of blank are in use.  Between the tokens of a rule only five blanks of the basic
alphabet count; around a line of a rule file every character with the Unicode property
White_Space does.

## Main definitions

* `Text.isBlank`: the blanks between tokens.
* `Text.isWhiteSpace`: the Unicode property.
* `Text.trim`: a text without white space at either end.
* `Text.lines`: a text cut at its line feeds.
-/

namespace ActiveRules.Text

/-- The blanks between tokens: space, tab, line feed, form feed and carriage return. -/
def isBlank (c : Char) : Bool :=
  c == ' ' || c == '\t' || c == '\n' || c == '\x0c' || c == '\r'

/-- The code points with the Unicode property White_Space, as closed ranges. -/
def whiteSpaceRanges : List (Nat × Nat) :=
  [(0x0009, 0x000d), (0x0020, 0x0020), (0x0085, 0x0085), (0x00a0, 0x00a0), (0x1680, 0x1680),
    (0x2000, 0x200a), (0x2028, 0x2029), (0x202f, 0x202f), (0x205f, 0x205f), (0x3000, 0x3000)]

/-- Does a character have the Unicode property White_Space? -/
def isWhiteSpace (c : Char) : Bool :=
  whiteSpaceRanges.any fun (first, last) => first ≤ c.toNat && c.toNat ≤ last

/-- A text without the white space at its beginning. -/
def trimStart (text : List Char) : List Char := text.dropWhile isWhiteSpace

/-- A text without the white space at either end. -/
def trim (text : List Char) : List Char :=
  (trimStart (trimStart text).reverse).reverse

/-- A text cut at its line feeds, which belong to no line.  A text that ends in a line feed ends
in an empty line. -/
def lines : List Char → List (List Char)
  | [] => [[]]
  | c :: rest =>
    if c = '\n' then [] :: lines rest
    else match lines rest with
      | [] => [[c]]
      | line :: others => (c :: line) :: others

end ActiveRules.Text
