import ActiveRules.Proofs.Lines
import Mathlib.Data.List.TakeWhile

/-!
# A space behind a text

A space behind a text is trivia, or it goes on with what is flawed anyway: a string literal that is
left open.  Either way the text has tokens of the same kinds.

## Main statements

* `Trivia.split_space_of_blank`, `Trivia.split_space_of_visible`: a space behind a text keeps the
  trivia in front of its first token.
* `Scan.first_space`: what the first token is read as does not change either.
* `kindsAhead_append_space`: neither do the kinds of all tokens.
-/

namespace ActiveRules

/-! ## Trivia -/

namespace Trivia

/-- Where a text goes on visibly, a space behind it does not keep a line in it from ending. -/
theorem EndsLine.before_space {text : List Char} (ends : EndsLine text) (nonempty : text ≠ []) :
    EndsLine (text ++ [' ']) := by
  unfold EndsLine at ends
  split at ends
  · exact absurd rfl nonempty
  · trivial
  · trivial
  · exact ends.elim

theorem Precedes.before_space {trivia rest : List Char} (precedes : Precedes trivia rest)
    (nonempty : rest ≠ []) : Precedes trivia (rest ++ [' ']) := by
  induction precedes with
  | nil => exact .nil
  | blank blank _ ih => exact .blank blank (ih nonempty)
  | comment inLine ends _ ih =>
    have still := ends.before_space (List.append_ne_nil_of_right_ne_nil _ nonempty)
    rw [List.append_assoc] at still
    exact .comment inLine still (ih nonempty)

/-- Trivia with a space behind them are trivia: the space is one of them, or it is part of the
comment that they end in. -/
theorem Precedes.append_space {trivia rest : List Char} (precedes : Precedes trivia rest)
    (nothing : rest = []) : Precedes (trivia ++ [' ']) [] := by
  induction precedes with
  | nil => exact .blank rfl .nil
  | blank blank _ ih => exact .blank blank (ih nothing)
  | @comment body trivia rest inLine ends others ih =>
    subst nothing
    cases trivia with
    | nil =>
      have inLineSpace : ∀ c ∈ body ++ [' '], c ≠ '\n' ∧ c ≠ '\r' := by
        intro c member
        rcases List.mem_append.mp member with inside | space
        · exact inLine c inside
        · rw [List.mem_singleton.mp space]
          decide
      have whole : Precedes ('#' :: (body ++ [' ']) ++ []) [] := .comment inLineSpace trivial .nil
      rw [List.append_nil] at whole ⊢
      exact whole
    | cons c tail =>
      rw [List.append_nil] at ends
      have still := ends.before_space (List.cons_ne_nil c tail)
      rw [List.append_assoc]
      exact .comment inLine (by rw [List.append_nil]; exact still) (ih rfl)

/-- A text of trivia alone has nothing else with a space behind it. -/
theorem split_space_of_blank {text : List Char} (blank : (split text).2 = []) :
    (split (text ++ [' '])).2 = [] := by
  have parts := split_append text
  rw [blank, List.append_nil] at parts
  have whole := split_append_of_precedes ((split_precedes text).append_space blank)
  rw [parts, List.append_nil] at whole
  rw [whole, split]

/-- A space behind a carriage return that stands alone does not make it part of a line end. -/
theorem commentBody?_space_eq_none {text : List Char} (endless : commentBody? text = none) :
    commentBody? (text ++ [' ']) = none := by
  obtain ⟨body, rest, rfl, inLine, alone⟩ := commentBody?_eq_none_iff.mp endless
  refine commentBody?_eq_none_iff.mpr ⟨body, rest ++ [' '], by simp, inLine, ?_⟩
  intro tail same
  cases rest with
  | nil => cases same
  | cons c rest =>
    cases same
    exact alone rest rfl

/-- A text without trivia in front of it has none with a space behind it. -/
theorem split_space_of_split {c : Char} {rest : List Char}
    (stands : split (c :: rest) = ([], c :: rest)) :
    split (c :: (rest ++ [' '])) = ([], c :: (rest ++ [' '])) := by
  cases blank : Text.isBlank c with
  | true =>
    rw [split_cons_of_isBlank blank] at stands
    cases stands
  | false =>
    by_cases comment : c = '#'
    · subst comment
      cases found : commentBody? rest with
      | none => exact split_of_commentBody?_eq_none (commentBody?_space_eq_none found)
      | some pair =>
        rw [split_comment found] at stands
        cases stands
    · exact split_cons_of_visible blank comment _

/-- The trivia in front of a visible character are not changed by a space behind the text. -/
theorem split_space_of_visible {text rest : List Char} {c : Char}
    (ahead : (split text).2 = c :: rest) :
    (split (text ++ [' '])).2 = c :: (rest ++ [' ']) := by
  have parts := split_append text
  have stands := split_split text
  have still := (split_precedes text).before_space (by rw [ahead]; exact List.cons_ne_nil c rest)
  rw [ahead] at parts stands still
  have whole := split_append_of_precedes still
  rw [← List.append_assoc, parts, List.cons_append, split_space_of_split stands] at whole
  rw [whole]

end Trivia

/-! ## One token -/

/-- A literal that a text does not close, a space behind it does not close either. -/
theorem Quoted.scan_space (text : List Char) :
    scan (text ++ [' ']) = (scan text).map (.followedBy [' ']) :=
  scan_append_of_open rfl rfl text

namespace Scan

/-- Both tokens go on to the end of their text, and they are of one kind. -/
def AlikeToTheEnd (scan other : Scan) : Prop :=
  scan.kind = other.kind ∧ scan.rest = [] ∧ other.rest = []

/-- A space behind a text is left behind a literal at its beginning, unless that is left open on the
last line: then it goes on with the space. -/
theorem string_space (text : List Char) :
    string (text ++ [' ']) = (string text).followedBy [' '] ∨
      (string (text ++ [' '])).AlikeToTheEnd (string text) := by
  unfold string
  rw [Quoted.scan_space]
  cases Quoted.scan text with
  | some literal => exact .inl rfl
  | none =>
    dsimp only [Option.map_none]
    by_cases ends : '\n' ∈ text
    · obtain ⟨front, back, rfl⟩ := List.append_of_mem ends
      left
      rw [List.append_assoc, List.cons_append, takeWhile_append_cons_of_neg rfl,
        dropWhile_append_cons_of_neg rfl, takeWhile_append_cons_of_neg rfl,
        dropWhile_append_cons_of_neg rfl, followedBy, List.append_assoc, List.cons_append]
    · have inLine : ∀ c ∈ text, (c != '\n') = true := fun c member =>
        bne_iff_ne.mpr fun same => ends (same ▸ member)
      right
      refine ⟨rfl, ?_, List.dropWhile_eq_nil_iff.mpr inLine⟩
      show (text ++ [' ']).dropWhile (· != '\n') = []
      rw [List.dropWhile_append_of_pos inLine]
      rfl

/-- What the first token is read as is not changed by a space behind the text. -/
theorem first_space (c : Char) (text : List Char) :
    first c (text ++ [' ']) = (first c text).followedBy [' '] ∨
      (first c (text ++ [' '])).AlikeToTheEnd (first c text) := by
  have space : Text.isBlank ' ' = true := rfl
  have sign : (text ++ [' ']).head?.any Char.isDigit = text.head?.any Char.isDigit := by
    cases text <;> rfl
  have digits := number_blank space false (c :: text) []
  have symbol := symbol?_blank space (c :: text) []
  rw [List.cons_append] at digits symbol
  unfold first
  rw [sign, digits, number_blank space, symbol, word_blank space]
  split
  · exact string_space text
  · left
    split
    · rfl
    · split
      · rfl
      · cases symbol? (c :: text) with
        | some found => rfl
        | none =>
          dsimp only [Option.map_none]
          split <;> rfl

end Scan

/-! ## All tokens -/

theorem Cursor.kindsAhead_append_space (cursor : Cursor) :
    kindsAhead (cursor.rest ++ [' ']) = kindsAhead cursor.rest := by
  induction cursor using Cursor.tokens.induct with
  | case1 cursor ended =>
    have blank := split_of_next?_eq_none ended
    rw [kindsAhead_of_split_nil blank, kindsAhead_of_split_nil (Trivia.split_space_of_blank blank)]
  | case2 cursor token later found ih =>
    obtain ⟨c, text, ahead, -, rfl⟩ := exists_scan_of_next? found
    rw [kindsAhead_of_split_cons ahead,
      kindsAhead_of_split_cons (Trivia.split_space_of_visible ahead)]
    rcases Scan.first_space c text with same | ⟨kind, ended, endedThere⟩
    · rw [same, ← ih]
      rfl
    · rw [kind, ended, endedThere]

/-- A space behind a text changes none of the kinds of its tokens. -/
theorem kindsAhead_append_space (text : List Char) :
    kindsAhead (text ++ [' ']) = kindsAhead text :=
  Cursor.kindsAhead_append_space ⟨text, .start⟩

end ActiveRules
