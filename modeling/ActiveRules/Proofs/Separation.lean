import ActiveRules.Proofs.Lexemes

/-!
# Tokens that are set apart

The scanners take as many characters as they can, so what a token is may depend on what follows it.
In front of a blank, of a comment and of the end of the text none of them goes on.  So a token that
was found in front of anything is found again wherever it is set apart like that.

## Main definitions

* `SetApart`: a text that begins with a blank or with a comment, or is over.

## Main statements

* `Quoted.scan_closed`: a literal that is closed is read whatever follows it.
* `Scan.reads_of_first`: the lexeme of a token without a flaw is read as that token where it is set
  apart.
-/

namespace ActiveRules

/-- No token goes on into this text: it begins with a blank or with a comment, or is over. -/
def SetApart (text : List Char) : Prop := ∀ c ∈ text.head?, Text.isBlank c = true ∨ c = '#'

/-- A class of characters without blanks and without the comment sign does not go on there. -/
theorem SetApart.stops {p : Char → Bool} {text : List Char} (apart : SetApart text)
    (outside : (['#', ' ', '\t', '\n', '\x0c', '\r'].any p) = false) : Stops p text := by
  intro c ahead
  rw [Bool.eq_false_iff]
  intro member
  obtain ⟨visible, noComment⟩ := Scan.visible_of_class member outside
  rcases apart c ahead with blank | comment
  · rw [visible] at blank
    cases blank
  · exact noComment comment

/-- A literal that is closed is read whatever follows it. -/
theorem Quoted.scan_closed {text : List Char} {literal : Literal}
    (found : scan text = some literal) (rest : List Char) :
    scan (literal.spelling ++ rest) = some { literal with rest } := by
  fun_induction scan text generalizing literal with
  | case1 => cases found; rfl
  | case2 => cases found
  | case3 => cases found
  | case4 c tail noLineFeed ih =>
    obtain ⟨inner, inside, rfl⟩ := Option.map_eq_some_iff.mp found
    show scan ('\\' :: c :: (inner.spelling ++ rest)) = _
    rw [scan_backslash noLineFeed, ih inside]
    rfl
  | case5 => cases found
  | case6 c tail noQuote noLineFeed _ noEscape noneLast ih =>
    obtain ⟨inner, inside, rfl⟩ := Option.map_eq_some_iff.mp found
    have plain := ne_backslash noEscape noneLast
    show scan (c :: (inner.spelling ++ rest)) = _
    rw [scan_plain noQuote noLineFeed plain, ih inside]
    rfl
  | case7 => cases found

namespace Scan

variable {rest : List Char}

/-- A string literal that is closed is read whatever follows it. -/
theorem reads_string {text : List Char} (noFlaw : ∀ flaw, (string text).kind ≠ .flaw flaw)
    (rest : List Char) : Reads (string text).lexeme (string text).kind rest := by
  unfold string at noFlaw ⊢
  split at noFlaw
  · next literal found =>
    refine .intro rfl (by decide) ?_
    rw [first, if_pos rfl, string, Quoted.scan_closed found]
  · exact absurd rfl (noFlaw .unterminatedString)

/-- A numeral is read where it is set apart, whatever its parts are. -/
theorem reads_number (negative : Bool) {text : List Char}
    (digit : text.head?.any Char.isDigit = true) (apart : SetApart rest) :
    Reads (number negative text).lexeme (number negative text).kind rest := by
  have run := Numeral.isRun_takeWhile digit
  unfold number
  dsimp only
  split
  · next tail point =>
    split
    · rw [List.append_assoc, List.cons_append]
      exact reads_single negative rest run (Numeral.isDigit_takeWhile tail)
    · exact reads_double negative run (Numeral.isDigit_takeWhile tail) (apart.stops rfl)
  · exact reads_integral negative run (apart.stops rfl)

/-- An operator or a punctuation mark is read where it is set apart. -/
theorem reads_symbol {text : List Char} {found : Scan} (read : symbol? text = some found)
    (apart : SetApart rest) : Reads found.lexeme found.kind rest := by
  -- Only an equals sign goes on with a symbol that is read as a whole.
  have noEqual : ∀ tail, rest = '=' :: tail → False := by
    have stops : Stops (· == '=') rest := apart.stops rfl
    rintro tail rfl
    cases stops '=' rfl
  unfold symbol? at read
  split at read <;> cases read
  · exact .intro rfl (by decide) rfl
  · refine .intro rfl (by decide) (first_of_symbol? ?_)
    rw [List.nil_append, symbol?]
    exact noEqual
  · exact .intro rfl (by decide) rfl
  · refine .intro rfl (by decide) (first_of_symbol? ?_)
    rw [List.nil_append, symbol?]
    exact noEqual
  · exact .intro rfl (by decide) rfl
  · exact .intro rfl (by decide) rfl
  · exact .intro rfl (by decide) rfl
  · exact .intro rfl (by decide) rfl
  · exact .intro rfl (by decide) rfl

/-- The lexeme of a token without a flaw is read as that token where it is set apart. -/
theorem reads_of_first {c : Char} {text : List Char}
    (noFlaw : ∀ flaw, (first c text).kind ≠ .flaw flaw) (apart : SetApart rest) :
    Reads (first c text).lexeme (first c text).kind rest := by
  obtain ⟨-, same⟩ | ⟨digit, same⟩ | ⟨-, digit, same⟩ | ⟨found, read, same⟩ | ⟨starts, same⟩ |
    same := first_cases c text
  all_goals rw [same] at noFlaw ⊢
  · exact reads_string noFlaw rest
  · exact reads_number false digit apart
  · exact reads_number true digit apart
  · exact reads_symbol read apart
  · exact reads_word starts (all_continuesWord_word starts text) (apart.stops rfl)
  · exact absurd rfl (noFlaw .unrecognizedCharacter)

end Scan

end ActiveRules
