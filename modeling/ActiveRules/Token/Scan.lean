import ActiveRules.Text.Blank
import ActiveRules.Token.Basic

/-!
# Scanning a text for its first token

Scanning splits a text: first the trivia, which are blanks and comments, and then the characters
of one token.  Nothing is lost on the way, and a token is never empty.

## Main definitions

* `Trivia.split`: a text split behind its leading blanks and comments.
* `Scan.first`: the token at the beginning of a text.

## Main statements

* `Trivia.split_append`: the trivia and what follows them make up the text.
* `Scan.first_append`: the lexeme and what follows it make up the text.
* `Scan.first_lexeme_ne_nil`: a lexeme has at least one character.
-/

namespace ActiveRules

namespace Trivia

/-- The body of a comment, up to the end of its line, and what follows it.  A line ends before a
line feed, before a carriage return with a line feed behind it, and with the text; a body whose
first carriage return stands alone has no end. -/
def commentBody? (text : List Char) : Option (List Char × List Char) :=
  let body := text.takeWhile fun c => c != '\n' && c != '\r'
  match text.dropWhile fun c => c != '\n' && c != '\r' with
  | '\r' :: '\n' :: rest => some (body, '\r' :: '\n' :: rest)
  | '\r' :: _ => none
  | rest => some (body, rest)

theorem commentBody?_append {text body rest : List Char}
    (found : commentBody? text = some (body, rest)) : body ++ rest = text := by
  have split := List.takeWhile_append_dropWhile (p := fun c => c != '\n' && c != '\r') (l := text)
  unfold commentBody? at found
  simp only at found
  split at found
  · next h => cases found; rw [← h]; exact split
  · cases found
  · cases found; exact split

/-- A text split behind its leading blanks and comments.  A `#` whose comment has no end is left
standing. -/
def split : List Char → List Char × List Char
  | [] => ([], [])
  | c :: rest =>
    if Text.isBlank c then
      let (blanks, after) := split rest
      (c :: blanks, after)
    else if c = '#' then
      match _ : commentBody? rest with
      | none => ([], c :: rest)
      | some (body, tail) =>
        let (trivia, after) := split tail
        (c :: body ++ trivia, after)
    else ([], c :: rest)
termination_by text => text.length
decreasing_by
  · simp
  · have := congrArg List.length (commentBody?_append ‹commentBody? rest = some _›)
    simp only [List.length_append] at this
    simp only [List.length_cons]
    omega

/-- Trivia and what comes behind them make up the text. -/
theorem split_append (text : List Char) : (split text).1 ++ (split text).2 = text := by
  fun_induction split text with
  | case1 => rfl
  | case2 c rest blank blanks after found ih => simpa [found] using ih
  | case3 => rfl
  | case4 rest body tail ended trivia after found blank ih =>
    rw [found] at ih
    simp only [List.cons_append, List.append_assoc, ih, commentBody?_append ended]
  | case5 => rfl

theorem length_split_le (text : List Char) : (split text).2.length ≤ text.length := by
  have := congrArg List.length (split_append text)
  simp only [List.length_append] at this
  omega

end Trivia

/-- A token found at the beginning of a text: its kind, its characters, and what follows. -/
structure Scan where
  kind : Kind
  lexeme : List Char
  rest : List Char

namespace Scan

/-- A string literal whose opening quote has been read.  If it is not closed on its line, the
whole of that line is flawed. -/
def string (text : List Char) : Scan :=
  match Quoted.scan text with
  | some literal =>
    ⟨.string (.ofList literal.content), '"' :: literal.spelling, literal.rest⟩
  | none =>
    ⟨.flaw .unterminatedString, '"' :: text.takeWhile (· != '\n'), text.dropWhile (· != '\n')⟩

/-- A number literal behind its sign, if it has one.  A point makes it double precision, and an
`f` directly after the last digit makes it single precision. -/
def number (negative : Bool) (text : List Char) : Scan :=
  let sign := if negative then ['-'] else []
  let whole := text.takeWhile Char.isDigit
  match text.dropWhile Char.isDigit with
  | '.' :: tail =>
    let fraction := tail.takeWhile Char.isDigit
    let spelling := sign ++ whole ++ '.' :: fraction
    match tail.dropWhile Char.isDigit with
    | 'f' :: rest => ⟨.single (.ofNumeral .single negative whole fraction), spelling ++ ['f'], rest⟩
    | rest => ⟨.double (.ofNumeral .double negative whole fraction), spelling, rest⟩
  | rest =>
    let magnitude := Numeral.value whole
    ⟨.ofInt (if negative then -(magnitude : Int) else magnitude), sign ++ whole, rest⟩

/-- An operator or a punctuation mark, the longest that fits. -/
def symbol? : List Char → Option Scan
  | '>' :: '=' :: rest => some ⟨.comparison .atLeast, ['>', '='], rest⟩
  | '>' :: rest => some ⟨.comparison .greater, ['>'], rest⟩
  | '<' :: '=' :: rest => some ⟨.comparison .atMost, ['<', '='], rest⟩
  | '<' :: rest => some ⟨.comparison .less, ['<'], rest⟩
  | '=' :: '=' :: rest => some ⟨.comparison .equal, ['=', '='], rest⟩
  | '!' :: '=' :: rest => some ⟨.comparison .unequal, ['!', '='], rest⟩
  | '(' :: rest => some ⟨.leftParenthesis, ['('], rest⟩
  | ')' :: rest => some ⟨.rightParenthesis, [')'], rest⟩
  | ',' :: rest => some ⟨.comma, [','], rest⟩
  | _ => none

/-- Can a word start with this character? -/
def startsWord (c : Char) : Bool := c.isAlpha || c == '_'

/-- Can a word go on with this character?  A point may stand inside a word. -/
def continuesWord (c : Char) : Bool := c.isAlphanum || c == '_' || c == '.'

/-- A word: a reserved one or an identifier. -/
def word (c : Char) (text : List Char) : Scan :=
  let lexeme := c :: text.takeWhile continuesWord
  ⟨.ofWord (.ofList lexeme), lexeme, text.dropWhile continuesWord⟩

/-- The token at the beginning of the text `c :: text`, where no trivia stand.  A character that
starts no token is one flawed token by itself. -/
def first (c : Char) (text : List Char) : Scan :=
  if c = '"' then string text
  else if c.isDigit then number false (c :: text)
  else if c = '-' ∧ text.head?.any Char.isDigit then number true text
  else match symbol? (c :: text) with
    | some found => found
    | none =>
      if startsWord c then word c text
      else ⟨.flaw .unrecognizedCharacter, [c], text⟩

theorem string_append (text : List Char) :
    (string text).lexeme ++ (string text).rest = '"' :: text := by
  unfold string
  split
  · next literal found => simp [Quoted.scan_append found]
  · simp

/-- Nothing of a number is lost: its lexeme and the rest make up the text. -/
theorem number_append (negative : Bool) (text : List Char) :
    (number negative text).lexeme ++ (number negative text).rest =
      (if negative then ['-'] else []) ++ text := by
  have integral := List.takeWhile_append_dropWhile (p := Char.isDigit) (l := text)
  unfold number
  simp only
  split
  · next tail point =>
    have fractional := List.takeWhile_append_dropWhile (p := Char.isDigit) (l := tail)
    rw [point] at integral
    split
    · next rest suffixed =>
      rw [suffixed] at fractional
      simp [fractional, integral]
    · simp [fractional, integral]
  · simp [integral]

/-- A symbol and the rest make up the text. -/
theorem symbol?_append {text : List Char} {found : Scan} (h : symbol? text = some found) :
    found.lexeme ++ found.rest = text := by
  unfold symbol? at h
  split at h <;> cases h <;> rfl

theorem symbol?_lexeme_ne_nil {text : List Char} {found : Scan} (h : symbol? text = some found) :
    found.lexeme ≠ [] := by
  unfold symbol? at h
  split at h <;> cases h <;> simp

/-- The lexeme and what follows it make up the text. -/
theorem first_append (c : Char) (text : List Char) :
    (first c text).lexeme ++ (first c text).rest = c :: text := by
  unfold first
  split
  · next quote => rw [string_append, quote]
  · split
    · rw [number_append]; rfl
    · split
      · next sign => rw [number_append, sign.1]; rfl
      · split
        · next found h => exact symbol?_append h
        · split
          · simp [word]
          · rfl

/-- A lexeme has at least one character. -/
theorem first_lexeme_ne_nil (c : Char) (text : List Char) : (first c text).lexeme ≠ [] := by
  unfold first
  split
  · unfold string; split <;> simp
  · split
    · next digit =>
      simp only [number, List.takeWhile_cons, digit]
      split
      · split <;> simp
      · simp
    · split
      · simp only [number]
        split
        · split <;> simp
        · simp
      · split
        · next found h => exact symbol?_lexeme_ne_nil h
        · split <;> simp [word]

/-- Every token shortens the text. -/
theorem length_first_rest_le (c : Char) (text : List Char) :
    (first c text).rest.length ≤ text.length := by
  have := congrArg List.length (first_append c text)
  have := List.length_pos_iff.mpr (first_lexeme_ne_nil c text)
  simp only [List.length_append, List.length_cons] at *
  omega

end Scan

end ActiveRules
