import ActiveRules.Proofs.Tiling
import Mathlib.Data.List.Infix

/-!
# Comments

A `#` where a token could stand begins a comment, which runs up to the end of its line.  There is
one exception.  A line ends before a line feed, before a carriage return with a line feed behind it,
and with the text.  A carriage return that stands alone ends no line, and no comment holds it: a `#`
with such a return behind it on its line is a flawed token by itself, and what was meant to be a
comment is read as tokens.

## Main statements

* `Cursor.next_comment`: in front of a comment the next token is that behind the comment.
* `Cursor.next_of_meetsReturn`: a comment sign that begins no comment is the next token.
* `comment_sign_is_token_iff_return_stands_alone`: which comment signs are tokens of a text.
-/

namespace ActiveRules

namespace Trivia

/-- Where no comment sign is taken for trivia, it begins no comment. -/
theorem meetsReturn_of_split {text : List Char}
    (stands : split ('#' :: text) = ([], '#' :: text)) : MeetsReturn text := by
  rw [← commentBody?_eq_none_iff]
  cases found : commentBody? text with
  | none => rfl
  | some pair =>
    rw [split_comment found] at stands
    cases stands

end Trivia

namespace Cursor

variable {rest : List Char}

/-! ## One comment sign -/

/-- In front of a comment the next token is that behind the comment. -/
theorem next_comment {body : List Char} (inLine : ∀ c ∈ body, c ≠ '\n' ∧ c ≠ '\r')
    (ends : Trivia.EndsLine rest) (position : Position) :
    next ⟨'#' :: (body ++ rest), position⟩ = next ⟨rest, position.afterAll ('#' :: body)⟩ := by
  have skipped : skipTrivia ⟨'#' :: (body ++ rest), position⟩ =
      skipTrivia ⟨rest, position.afterAll ('#' :: body)⟩ := by
    have split := Trivia.split_comment (Trivia.commentBody?_of_endsLine inLine ends)
    simp only [skipTrivia, split, Position.afterAll_append]
  have same : next? ⟨'#' :: (body ++ rest), position⟩ =
      next? ⟨rest, position.afterAll ('#' :: body)⟩ := by
    rw [← next?_skipTrivia, skipped, next?_skipTrivia]
  rw [next, same, finish, skipped]
  rfl

/-- A comment sign begins a comment if no carriage return that stands alone is met behind it. -/
theorem exists_comment (ends : ¬ Trivia.MeetsReturn rest) (position : Position) :
    ∃ body tail, rest = body ++ tail ∧ (∀ c ∈ body, c ≠ '\n' ∧ c ≠ '\r') ∧
      Trivia.EndsLine tail ∧
      next ⟨'#' :: rest, position⟩ = next ⟨tail, position.afterAll ('#' :: body)⟩ := by
  cases found : Trivia.commentBody? rest with
  | none => exact absurd (Trivia.commentBody?_eq_none_iff.mp found) ends
  | some pair =>
    obtain ⟨inLine, endsLine⟩ := Trivia.endsLine_of_commentBody? found
    obtain rfl := Trivia.commentBody?_append found
    exact ⟨pair.1, pair.2, rfl, inLine, endsLine, next_comment inLine endsLine position⟩

/-- A comment sign that begins no comment is the next token. -/
theorem next_of_meetsReturn (alone : Trivia.MeetsReturn rest) (position : Position) :
    next ⟨'#' :: rest, position⟩ =
      (⟨.flaw .unrecognizedCharacter, "#", position⟩, ⟨rest, position.after '#'⟩) := by
  have stands := Trivia.split_of_commentBody?_eq_none (Trivia.commentBody?_eq_none_iff.mpr alone)
  rw [next_of_split stands]
  rfl

end Cursor

/-! ## Comment signs among the tokens -/

/-- The tokens that begin with a comment sign are those at one that begins no comment. -/
theorem Cursor.head?_lexeme_eq_comment_sign_iff {text : String} {i : Nat}
    (inside : i < (ofText text).tokens.length) :
    ((ofText text).token i).lexeme.toList.head? = some '#' ↔
      ∃ front rest, text.toList = front ++ '#' :: rest ∧
        ((ofText text).token i).position = .behind front ∧ Trivia.MeetsReturn rest := by
  obtain ⟨front, c, rest, parts, place, first, stands⟩ := exists_place inside
  rw [first]
  constructor
  · rintro ⟨⟩
    exact ⟨front, rest, parts, place, Trivia.meetsReturn_of_split stands⟩
  · rintro ⟨other, tail, otherParts, otherPlace, -⟩
    -- The token stands at one place only, so the comment sign is the character found there.
    obtain rfl := Position.eq_of_behind_eq (parts.symm.trans otherParts)
      (place.symm.trans otherPlace)
    rw [parts] at otherParts
    exact congrArg some (List.cons.inj (List.append_cancel_left otherParts)).1

/-- Where every carriage return has its line feed, none that stands alone is met. -/
theorem Trivia.not_meetsReturn_of_paired {text rest : List Char}
    (paired : ∀ behind, '\r' :: behind <:+ text → behind.head? = some '\n')
    (ending : rest <:+ text) : ¬ MeetsReturn rest := by
  rintro ⟨line, behind, rfl, -, alone⟩
  obtain ⟨tail, feed⟩ := List.head?_eq_some_iff.mp
    (paired behind ((List.suffix_append line _).trans ending))
  exact alone tail feed

/-- A comment sign begins a comment, which runs up to the end of its line, unless a carriage return
that stands alone is met before.  Then it is a flawed token by itself, and the tokens go on directly
behind it.  So the tokens of a text that begin with a comment sign are those at a comment sign that
such a return is met behind, and a text without such returns has none. -/
theorem comment_sign_is_token_iff_return_stands_alone (text : String) :
    let cursor := Cursor.ofText text
    (∀ i < cursor.tokens.length, (cursor.token i).lexeme.toList.head? = some '#' ↔
      ∃ front rest, text.toList = front ++ '#' :: rest ∧
        (cursor.token i).position = .behind front ∧ Trivia.MeetsReturn rest) ∧
    (∀ (rest : List Char) (position : Position), Trivia.MeetsReturn rest →
      Cursor.next ⟨'#' :: rest, position⟩ =
        (⟨.flaw .unrecognizedCharacter, "#", position⟩, ⟨rest, position.after '#'⟩)) ∧
    (∀ (rest : List Char) (position : Position), ¬ Trivia.MeetsReturn rest →
      ∃ body tail, rest = body ++ tail ∧ (∀ c ∈ body, c ≠ '\n' ∧ c ≠ '\r') ∧
        Trivia.EndsLine tail ∧ Cursor.next ⟨'#' :: rest, position⟩ =
          Cursor.next ⟨tail, position.afterAll ('#' :: body)⟩) ∧
    ((∀ rest, '\r' :: rest <:+ text.toList → rest.head? = some '\n') →
      ∀ token ∈ cursor.tokens, token.lexeme.toList.head? ≠ some '#') := by
  intro cursor
  refine ⟨fun i inside => Cursor.head?_lexeme_eq_comment_sign_iff inside,
    fun rest position alone => Cursor.next_of_meetsReturn alone position,
    fun rest position ends => Cursor.exists_comment ends position, ?_⟩
  intro paired token member begins
  rw [cursor.tokens_eq_map] at member
  obtain ⟨i, inRange, rfl⟩ := List.mem_map.mp member
  obtain ⟨front, rest, parts, -, alone⟩ :=
    (Cursor.head?_lexeme_eq_comment_sign_iff (List.mem_range.mp inRange)).mp begins
  have ending : rest <:+ text.toList := ⟨front ++ ['#'], by simp [parts]⟩
  exact Trivia.not_meetsReturn_of_paired paired ending alone

/-- The return at the end of the first line has its line feed, and that in the second line stands
alone.  Without the second line no comment sign is a token. -/
theorem comment_sign_of_second_line_is_token :
    let text := "on #a\r\n# b\rc"
    let cursor := Cursor.ofText text
    let paired := "on #a\r\n"
    cursor.tokens.map Token.lexeme = ["on", "#", "b", "c"] ∧
    (∃ front rest, text.toList = front ++ '#' :: rest ∧
      (cursor.token 1).position = .behind front ∧ Trivia.MeetsReturn rest) ∧
    (∀ token ∈ tokensOf paired, token.lexeme.toList.head? ≠ some '#') := by
  intro text cursor paired
  obtain ⟨places, -, -, -⟩ := comment_sign_is_token_iff_return_stands_alone text
  obtain ⟨-, -, -, pairedHasNone⟩ := comment_sign_is_token_iff_return_stands_alone paired
  have lexemes : cursor.tokens.map Token.lexeme = ["on", "#", "b", "c"] := by decide +kernel
  have inside : 1 < cursor.tokens.length := by
    rw [← List.length_map (f := Token.lexeme), lexemes]
    decide
  have everyReturn : ∀ ending ∈ paired.toList.tails, ending.head? = some '\r' →
      ending.tail.head? = some '\n' := by decide +kernel
  refine ⟨lexemes, (places 1 inside).mp (by decide +kernel), pairedHasNone ?_⟩
  exact fun rest ending => everyReturn _ ((List.mem_tails _ _).mpr ending) rfl

/-- A comment that ends in a carriage return is none: its sign is a token. -/
theorem comment_sign_before_lone_return_is_token :
    ∃ token ∈ tokensOf "# c\r", token.lexeme.toList.head? = some '#' := by
  decide +kernel

end ActiveRules
