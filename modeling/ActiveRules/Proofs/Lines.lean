import ActiveRules.Proofs.Lexemes
import ActiveRules.Proofs.Tiling

/-!
# Line feeds separate tokens

No token goes on behind a line feed, and none looks further than one.  So the tokens of two texts
with a line feed between them are those of the first and those of the second, whatever is wrong
with either.  Only a carriage return at the end of the first text would become part of the line
end.

## Main definitions

* `Scan.followedBy`: a token that was found, with more text behind it.
* `Token.moved`: a token that stands a number of bytes and lines further on.

## Main statements

* `Scan.number_blank`, `Scan.symbol?_blank`, `Scan.word_blank`: no blank behind a text changes what
  a number, a symbol or a word at its beginning is read as.
* `Scan.first_line`: a line feed behind a text changes nothing about its first token.
* `Cursor.tokens_line`: the tokens ahead of a cursor, with a line feed and more text behind them.
* `line_feed_separates_tokens`: the tokens of two texts with a line feed between them.
-/

namespace ActiveRules

/-! ## One token in front of a line feed -/

namespace Quoted

/-- The same literal with more text behind it. -/
def Literal.followedBy (more : List Char) (literal : Literal) : Literal :=
  { literal with rest := literal.rest ++ more }

/-- What closes no literal, neither directly nor behind a backslash, is left behind one. -/
theorem scan_append_of_open {more : List Char} (opened : scan more = none)
    (escaped : scan ('\\' :: more) = none) (text : List Char) :
    scan (text ++ more) = (scan text).map (.followedBy more) := by
  fun_induction scan text with
  | case1 => rfl
  | case2 => rfl
  | case3 => rfl
  | case4 c rest noLineFeed ih =>
    rw [List.cons_append, List.cons_append, scan_backslash noLineFeed, ih, Option.map_map,
      Option.map_map]
    rfl
  | case5 => exact escaped
  | case6 c rest noQuote noLineFeed _ noEscape noneLast ih =>
    have plain := ne_backslash noEscape noneLast
    rw [List.cons_append, scan_plain noQuote noLineFeed plain, ih, Option.map_map, Option.map_map]
    rfl
  | case7 => exact opened

/-- A literal is closed in front of a line feed or not at all. -/
theorem scan_line (text more : List Char) :
    scan (text ++ '\n' :: more) = (scan text).map (.followedBy ('\n' :: more)) :=
  scan_append_of_open rfl rfl text

end Quoted

namespace Scan

/-- The same token with more text behind it. -/
def followedBy (more : List Char) (scan : Scan) : Scan := { scan with rest := scan.rest ++ more }

theorem string_line (text more : List Char) :
    string (text ++ '\n' :: more) = (string text).followedBy ('\n' :: more) := by
  unfold string
  rw [Quoted.scan_line]
  cases Quoted.scan text with
  | some literal => rfl
  | none =>
    rw [Option.map_none]
    dsimp only [followedBy]
    rw [takeWhile_append_cons_of_neg rfl, dropWhile_append_cons_of_neg rfl]

/-- What begins a text with another character behind it, and is not that one, begins the text. -/
theorem exists_of_append_eq_cons {b c : Char} {text more rest : List Char} (visible : c ≠ b)
    (same : text ++ b :: more = c :: rest) : ∃ tail, text = c :: tail := by
  cases text with
  | nil =>
    cases same
    exact absurd rfl visible
  | cons d tail =>
    cases same
    exact ⟨tail, rfl⟩

section Blank

variable {b : Char} (blank : Text.isBlank b = true)
include blank

/-- A blank is in no class of characters without blanks. -/
theorem not_mem_of_blank {p : Char → Bool}
    (outside : (['#', ' ', '\t', '\n', '\x0c', '\r'].any p) = false) : p b = false := by
  rw [Bool.eq_false_iff]
  intro member
  rw [(visible_of_class member outside).1] at blank
  cases blank

theorem number_blank (negative : Bool) (text more : List Char) :
    number negative (text ++ b :: more) = (number negative text).followedBy (b :: more) := by
  have noDigit : b.isDigit = false := not_mem_of_blank blank rfl
  have noPoint : b ≠ '.' := by rintro rfl; cases blank
  have noSuffix : b ≠ 'f' := by rintro rfl; cases blank
  unfold number
  rw [takeWhile_append_cons_of_neg noDigit, dropWhile_append_cons_of_neg noDigit]
  generalize text.takeWhile Char.isDigit = whole
  generalize text.dropWhile Char.isDigit = behind
  cases behind with
  | nil => simp [noPoint, followedBy]
  | cons c tail =>
    by_cases point : c = '.'
    · subst point
      -- Behind a point the blank ends the fraction, or follows its suffix.
      have digits : (tail ++ b :: more).takeWhile Char.isDigit = tail.takeWhile Char.isDigit :=
        takeWhile_append_cons_of_neg noDigit _ _
      have others : (tail ++ b :: more).dropWhile Char.isDigit =
          tail.dropWhile Char.isDigit ++ b :: more := dropWhile_append_cons_of_neg noDigit _ _
      simp only [List.cons_append, digits, others]
      cases tail.dropWhile Char.isDigit with
      | nil => simp [noSuffix, followedBy]
      | cons d rest =>
        by_cases suffix : d = 'f'
        · subst suffix
          rfl
        · simp [suffix, followedBy]
    · simp [point, followedBy]

theorem symbol?_blank (text more : List Char) :
    symbol? (text ++ b :: more) = (symbol? text).map (followedBy (b :: more)) := by
  have noEqual : b ≠ '=' := by rintro rfl; cases blank
  fun_cases symbol? text with
  | case1 => rfl
  | case2 rest noEqualThere =>
    rw [List.cons_append, symbol?]
    · rfl
    · intro behind same
      obtain ⟨tail, rfl⟩ := exists_of_append_eq_cons noEqual.symm same
      exact noEqualThere tail rfl
  | case3 => rfl
  | case4 rest noEqualThere =>
    rw [List.cons_append, symbol?]
    · rfl
    · intro behind same
      obtain ⟨tail, rfl⟩ := exists_of_append_eq_cons noEqual.symm same
      exact noEqualThere tail rfl
  | case5 => rfl
  | case6 => rfl
  | case7 => rfl
  | case8 => rfl
  | case9 => rfl
  | case10 _ noAtLeast noGreater noAtMost noLess noEquals noUnequal noLeft noRight noComma =>
    -- A symbol at the beginning would be one without the blank too.
    match text with
    | [] =>
      cases found : symbol? (b :: more) with
      | none => exact found
      | some symbol =>
        have member := head_mem_of_symbol? found
        simp only [List.mem_cons, List.not_mem_nil, or_false] at member
        rcases member with rfl | rfl | rfl | rfl | rfl | rfl | rfl <;> cases blank
    | [c] =>
      rw [List.singleton_append, symbol?]
      · rfl
      all_goals rintro behind ⟨⟩
      · exact noGreater _ rfl
      · exact noGreater _ rfl
      · exact noLess _ rfl
      · exact noLess _ rfl
      · exact noEqual rfl
      · exact noEqual rfl
      · exact noLeft _ rfl
      · exact noRight _ rfl
      · exact noComma _ rfl
    | c :: d :: rest =>
      rw [List.cons_append, List.cons_append, symbol?]
      · rfl
      all_goals rintro behind ⟨⟩
      · exact noAtLeast _ rfl
      · exact noGreater _ rfl
      · exact noAtMost _ rfl
      · exact noLess _ rfl
      · exact noEquals _ rfl
      · exact noUnequal _ rfl
      · exact noLeft _ rfl
      · exact noRight _ rfl
      · exact noComma _ rfl

theorem word_blank (c : Char) (text more : List Char) :
    word c (text ++ b :: more) = (word c text).followedBy (b :: more) := by
  have ends : continuesWord b = false := not_mem_of_blank blank rfl
  unfold word
  rw [takeWhile_append_cons_of_neg ends, dropWhile_append_cons_of_neg ends]
  rfl

end Blank

/-- A line feed behind a text changes nothing about its first token. -/
theorem first_line (c : Char) (text more : List Char) :
    first c (text ++ '\n' :: more) = (first c text).followedBy ('\n' :: more) := by
  have sign : (text ++ '\n' :: more).head?.any Char.isDigit = text.head?.any Char.isDigit := by
    cases text <;> rfl
  have feed : Text.isBlank '\n' = true := rfl
  have digits := number_blank feed false (c :: text) more
  have symbol := symbol?_blank feed (c :: text) more
  rw [List.cons_append] at digits symbol
  unfold first
  rw [sign, string_line, digits, number_blank feed, symbol, word_blank feed]
  split
  · rfl
  · split
    · rfl
    · split
      · rfl
      · cases symbol? (c :: text) with
        | some found => rfl
        | none =>
          dsimp only [Option.map_none]
          split <;> rfl

end Scan

/-! ## All tokens in front of a line feed -/

namespace Cursor

/-- Cursors that stand at the same place behind their trivia see the same tokens. -/
theorem tokens_congr {cursor other : Cursor} (same : cursor.skipTrivia = other.skipTrivia) :
    cursor.tokens = other.tokens := by
  have next : cursor.next? = other.next? := by
    rw [← next?_skipTrivia, same, next?_skipTrivia]
  cases found : other.next? with
  | none => rw [tokens_of_next?_eq_none found, tokens_of_next?_eq_none (next.trans found)]
  | some pair => rw [tokens_of_next?_eq_some found, tokens_of_next?_eq_some (next.trans found)]

/-- Behind a token an end of the text is left. -/
theorem exists_front_of_next? {cursor later : Cursor} {token : Token}
    (found : cursor.next? = some (token, later)) : ∃ front, front ++ later.rest = cursor.rest := by
  obtain ⟨c, text, ahead, -, rfl⟩ := exists_scan_of_next? found
  refine ⟨(Trivia.split cursor.rest).1 ++ (Scan.first c text).lexeme, ?_⟩
  rw [List.append_assoc, Scan.first_append, ← ahead, Trivia.split_append]

/-- The tokens ahead of a cursor, with a line feed and more text behind them. -/
theorem tokens_line (cursor : Cursor) (noReturn : cursor.rest.getLast? ≠ some '\r')
    (more : List Char) :
    tokens ⟨cursor.rest ++ '\n' :: more, cursor.position⟩ =
      cursor.tokens ++ tokens ⟨more, cursor.ending.after '\n'⟩ := by
  induction cursor using Cursor.tokens.induct with
  | case1 cursor ended =>
    -- Trivia alone go on behind the line feed, up to the first token there.
    have whole := Trivia.split_line_of_blank (split_of_next?_eq_none ended) more
    rw [tokens_of_next?_eq_none ended, List.nil_append]
    refine tokens_congr ?_
    simp only [skipTrivia, whole, ending, Position.afterAll_append]
    rfl
  | case2 cursor token later found ih =>
    obtain ⟨front, parts⟩ := exists_front_of_next? found
    have lastReturn : later.rest.getLast? ≠ some '\r' := by
      rw [← parts] at noReturn
      exact getLast?_ne_of_append noReturn
    rw [tokens_of_next?_eq_some found, List.cons_append, ← ending_of_next? found, ← ih lastReturn]
    obtain ⟨c, text, ahead, rfl, rfl⟩ := exists_scan_of_next? found
    have whole := Trivia.split_line_of_visible ahead noReturn more
    have foundThere : next? ⟨cursor.rest ++ '\n' :: more, cursor.position⟩ = _ :=
      next?_eq_some (congrArg Prod.snd whole)
    rw [tokens_of_next?_eq_some foundThere]
    simp only [skipTrivia, whole, Scan.first_line]
    rfl

end Cursor

/-! ## The same text at another place -/

/-- The place a number of bytes and of lines further on, in the same column. -/
def Position.moved (bytes lines : Nat) (position : Position) : Position :=
  { position with offset := position.offset + bytes, line := position.line + lines }

/-- A token that stands a number of bytes and of lines further on. -/
def Token.moved (bytes lines : Nat) (token : Token) : Token :=
  { token with position := token.position.moved bytes lines }

namespace Position

theorem after_moved (bytes lines : Nat) (position : Position) (c : Char) :
    (position.moved bytes lines).after c = (position.after c).moved bytes lines := by
  unfold after
  split
  · simp [moved, Nat.add_right_comm]
  · simp [moved, Nat.add_right_comm]

theorem afterAll_moved (bytes lines : Nat) (position : Position) (text : List Char) :
    (position.moved bytes lines).afterAll text = (position.afterAll text).moved bytes lines := by
  induction text generalizing position with
  | nil => rfl
  | cons c text ih =>
    show ((position.moved bytes lines).after c).afterAll text = _
    rw [after_moved, ih]
    rfl

/-- Behind a line feed a place is that behind the text in front, from the first column on. -/
theorem after_line_feed_behind (text : List Char) :
    (behind text).after '\n' =
      start.moved ((String.ofList text).utf8ByteSize + 1) (text.count '\n' + 1) := by
  have feed : '\n'.utf8Size = 1 := rfl
  simp [after, behind, start, moved, feed, Nat.add_assoc]

end Position

/-- The tokens of a text that stands further on stand further on by as much. -/
theorem Cursor.tokens_moved (bytes lines : Nat) (cursor : Cursor) :
    tokens ⟨cursor.rest, cursor.position.moved bytes lines⟩ =
      cursor.tokens.map (.moved bytes lines) := by
  induction cursor using Cursor.tokens.induct with
  | case1 cursor ended =>
    have blank := split_of_next?_eq_none ended
    rw [tokens_of_next?_eq_none ended]
    exact tokens_of_next?_eq_none (next?_eq_none blank)
  | case2 cursor token later found ih =>
    rw [tokens_of_next?_eq_some found, List.map_cons, ← ih]
    obtain ⟨c, text, ahead, rfl, rfl⟩ := exists_scan_of_next? found
    have foundThere : next? ⟨cursor.rest, cursor.position.moved bytes lines⟩ = _ :=
      next?_eq_some ahead
    rw [tokens_of_next?_eq_some foundThere]
    simp only [skipTrivia, Position.afterAll_moved]
    rfl

/-- A line feed separates tokens.  Whatever is wrong with either text, the tokens of two texts with
a line feed between them are those of the first and then those of the second, which stand further
on by the bytes and the lines in front of them. -/
theorem line_feed_separates_tokens (front back : String)
    (noReturn : front.toList.getLast? ≠ some '\r') :
    tokensOf (front ++ "\n" ++ back) =
      tokensOf front ++ (tokensOf back).map
        (.moved (front.utf8ByteSize + 1) (front.toList.count '\n' + 1)) := by
  have parts := (Cursor.ofText front).tokens_line noReturn back.toList
  have ended : (Cursor.ofText front).ending = .behind front.toList :=
    Position.afterAll_behind [] front.toList
  rw [ended, Position.after_line_feed_behind, String.ofList_toList] at parts
  have whole : Cursor.ofText (front ++ "\n" ++ back) =
      ⟨front.toList ++ '\n' :: back.toList, .start⟩ := by
    simp [Cursor.ofText]
  rw [tokensOf, whole]
  exact parts.trans (congrArg _ (Cursor.tokens_moved _ _ (Cursor.ofText back)))

/-- A quote that is left open, with a backslash at the end of its line, ends there: the action on
the next line is read as if it stood alone, 16 bytes and one line further on. -/
theorem open_quote_ends_with_its_line :
    "title == \"open\\".toList.getLast? ≠ some '\r' ∧
    tokensOf ("title == \"open\\" ++ "\n" ++ "maximize()") =
      tokensOf "title == \"open\\" ++ (tokensOf "maximize()").map (.moved 16 1) := by
  refine ⟨by decide, ?_⟩
  exact line_feed_separates_tokens "title == \"open\\" "maximize()" (by decide)

end ActiveRules
