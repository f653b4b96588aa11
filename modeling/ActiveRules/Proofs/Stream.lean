import ActiveRules.Proofs.Lexemes

/-!
# The stream of the tokens of a text

A cursor that is moved on and on yields its tokens in order and then the end of the text again and
again.  Within the stream, up to the first time that the text has ended, no two tokens stand at
the same place.

## Main definitions

* `Cursor.token`: a token of the stream by its number, the end of the text counted as a token.

## Main statements

* `Cursor.token_advance`: moving a cursor drops the tokens that it was moved behind.
* `Cursor.getElem?_tokens`, `Cursor.token_length`: the stream holds the tokens ahead, then the end.
* `Cursor.token_position_injective`: the position of a token determines its number.
-/

namespace ActiveRules

namespace Position

/-- Every character moves a place by at least one byte. -/
theorem offset_lt_after (position : Position) (c : Char) :
    position.offset < (position.after c).offset := by
  have size := c.utf8Size_pos
  unfold after
  split
  · show position.offset < position.offset + c.utf8Size
    omega
  · show position.offset < position.offset + c.utf8Size
    omega

theorem offset_le_afterAll (position : Position) (text : List Char) :
    position.offset ≤ (position.afterAll text).offset := by
  induction text generalizing position with
  | nil => exact Nat.le_refl _
  | cons c text ih => exact Nat.le_trans (Nat.le_of_lt (position.offset_lt_after c)) (ih _)

theorem offset_lt_afterAll (position : Position) {text : List Char} (nonempty : text ≠ []) :
    position.offset < (position.afterAll text).offset := by
  cases text with
  | nil => exact absurd rfl nonempty
  | cons c text =>
    exact Nat.lt_of_lt_of_le (position.offset_lt_after c) (offset_le_afterAll _ text)

end Position

namespace Cursor

variable {cursor later : Cursor} {first : Token}

/-- A token of the stream by its number.  The end of the text is a token that never runs out. -/
def token (cursor : Cursor) (count : Nat) : Token := (cursor.advance count).next.1

theorem next_of_next?_eq_some (found : cursor.next? = some (first, later)) :
    cursor.next = (first, later) := by
  rw [next, found, Option.getD_some]

theorem next_of_next?_eq_none (ended : cursor.next? = none) :
    cursor.next = (cursor.finish, cursor.skipTrivia) := by
  rw [next, ended, Option.getD_none]

/-- Where no trivia stand in front of it, a token is found where the cursor stands. -/
theorem next_of_split {c : Char} {text : List Char}
    (stands : Trivia.split (c :: text) = ([], c :: text)) (position : Position) :
    next ⟨c :: text, position⟩ =
      (⟨(Scan.first c text).kind, .ofList (Scan.first c text).lexeme, position⟩,
        ⟨(Scan.first c text).rest, position.afterAll (Scan.first c text).lexeme⟩) := by
  have stays : skipTrivia ⟨c :: text, position⟩ = ⟨c :: text, position⟩ := by
    simp only [skipTrivia, stands]
    rfl
  have ahead : (Trivia.split (Cursor.mk (c :: text) position).rest).2 = c :: text :=
    congrArg Prod.snd stands
  rw [next_of_next?_eq_some (next?_eq_some ahead), stays]

theorem advance_add (cursor : Cursor) (count more : Nat) :
    cursor.advance (count + more) = (cursor.advance count).advance more := by
  induction count generalizing cursor with
  | zero => rw [Nat.zero_add, advance]
  | succ count ih => rw [Nat.succ_add, advance, ih, advance]

/-- Moving a cursor drops the tokens that it was moved behind. -/
theorem token_advance (cursor : Cursor) (count more : Nat) :
    (cursor.advance count).token more = cursor.token (count + more) := by
  rw [token, token, advance_add]

theorem token_succ (found : cursor.next? = some (first, later)) (count : Nat) :
    cursor.token (count + 1) = later.token count := by
  rw [Cursor.token, advance, next_of_next?_eq_some found, Cursor.token]

/-- The tokens ahead are the stream up to its end. -/
theorem getElem?_tokens (cursor : Cursor) {count : Nat} (inside : count < cursor.tokens.length) :
    cursor.tokens[count]? = some (cursor.token count) := by
  induction cursor using Cursor.tokens.induct generalizing count with
  | case1 cursor ended =>
    rw [tokens_of_next?_eq_none ended] at inside
    cases inside
  | case2 cursor first later found ih =>
    rw [tokens_of_next?_eq_some found] at inside ⊢
    cases count with
    | zero => rw [Cursor.token, advance, next_of_next?_eq_some found]; rfl
    | succ count =>
      rw [token_succ found, List.getElem?_cons_succ]
      exact ih (Nat.lt_of_succ_lt_succ inside)

theorem tokens_eq_map (cursor : Cursor) :
    cursor.tokens = (List.range cursor.tokens.length).map cursor.token := by
  refine List.ext_getElem? fun count => ?_
  rw [List.getElem?_map]
  rcases Nat.lt_or_ge count cursor.tokens.length with inside | beyond
  · rw [cursor.getElem?_tokens inside, List.getElem?_range inside, Option.map_some]
  · rw [List.getElem?_eq_none beyond, List.getElem?_eq_none (by simpa using beyond),
      Option.map_none]

/-- Behind the tokens ahead there is none. -/
theorem next?_advance_length (cursor : Cursor) :
    (cursor.advance cursor.tokens.length).next? = none := by
  induction cursor using Cursor.tokens.induct with
  | case1 cursor ended => rw [tokens_of_next?_eq_none ended, List.length_nil, advance, ended]
  | case2 cursor first later found ih =>
    rw [tokens_of_next?_eq_some found, List.length_cons, advance, next_of_next?_eq_some found, ih]

/-- Behind the tokens ahead the stream goes on with the end of the text. -/
theorem token_length (cursor : Cursor) : cursor.token cursor.tokens.length = cursor.last := by
  rw [token, next_of_next?_eq_none cursor.next?_advance_length, last]

/-- None of the tokens ahead is the end of the text. -/
theorem kind_ne_finish_of_mem {token : Token} (member : token ∈ cursor.tokens) :
    token.kind ≠ .finish := by
  intro isFinish
  have found := isFound_of_mem member
  rw [isFinish] at found
  cases found

/-- The end of the text is the first token of the stream with its kind. -/
theorem token_kind_ne_finish {count : Nat} (inside : count < cursor.tokens.length) :
    (cursor.token count).kind ≠ .finish :=
  kind_ne_finish_of_mem (List.mem_of_getElem? (cursor.getElem?_tokens inside))

/-- Every token, the end of the text included, stands behind the trivia in front of it. -/
theorem token_position (cursor : Cursor) (count : Nat) :
    (cursor.token count).position = (cursor.advance count).skipTrivia.position := by
  -- The end of the text stands behind trivia as well, so both kinds of token are at one place.
  generalize reached : cursor.advance count = here
  rw [token, reached]
  cases ahead : (Trivia.split here.rest).2 with
  | nil => rw [next_of_next?_eq_none (next?_eq_none ahead)]; rfl
  | cons c text => rw [next_of_next?_eq_some (next?_eq_some ahead)]

/-- Behind a token the cursor stands further on. -/
theorem offset_lt_of_next? (found : cursor.next? = some (first, later)) :
    cursor.skipTrivia.position.offset < later.skipTrivia.position.offset := by
  obtain ⟨c, text, -, -, rfl⟩ := exists_scan_of_next? found
  have lexeme := Scan.first_lexeme_ne_nil c text
  exact Nat.lt_of_lt_of_le (Position.offset_lt_afterAll _ lexeme)
    (Position.offset_le_afterAll _ _)

/-- Up to the end of the stream every move of a cursor takes the next token. -/
theorem next?_advance {count : Nat} (inside : count < cursor.tokens.length) :
    (cursor.advance count).next? = some (cursor.token count, cursor.advance (count + 1)) := by
  induction count generalizing cursor with
  | zero =>
    cases found : cursor.next? with
    | none =>
      rw [tokens_of_next?_eq_none found] at inside
      cases inside
    | some pair => rw [token, advance, advance, next_of_next?_eq_some found, advance, found]
  | succ count ih =>
    cases found : cursor.next? with
    | none =>
      rw [tokens_of_next?_eq_none found] at inside
      cases inside
    | some pair =>
      rw [tokens_of_next?_eq_some found] at inside
      rw [token_succ found, advance, advance, next_of_next?_eq_some found]
      exact ih (Nat.lt_of_succ_lt_succ inside)

/-- Within the stream every token stands further on than the one before. -/
theorem offset_token_lt_succ (cursor : Cursor) {count : Nat}
    (inside : count < cursor.tokens.length) :
    (cursor.token count).position.offset < (cursor.token (count + 1)).position.offset := by
  rw [token_position, token_position]
  exact offset_lt_of_next? (next?_advance inside)

theorem offset_token_lt {earlier count : Nat} (before : earlier < count)
    (inside : count ≤ cursor.tokens.length) :
    (cursor.token earlier).position.offset < (cursor.token count).position.offset := by
  induction count with
  | zero => cases before
  | succ count ih =>
    have step := cursor.offset_token_lt_succ inside
    rcases Nat.lt_succ_iff_lt_or_eq.mp before with further | rfl
    · exact Nat.lt_trans (ih further (Nat.le_of_succ_le inside)) step
    · exact step

/-- Up to the first end of the text the position of a token determines its number. -/
theorem token_position_injective {count other : Nat} (inside : count ≤ cursor.tokens.length)
    (otherInside : other ≤ cursor.tokens.length)
    (same : (cursor.token count).position = (cursor.token other).position) : count = other := by
  rcases Nat.lt_trichotomy count other with before | equal | behind
  · have apart := offset_token_lt before otherInside
    rw [same] at apart
    exact absurd apart (Nat.lt_irrefl _)
  · exact equal
  · have apart := offset_token_lt behind inside
    rw [same] at apart
    exact absurd apart (Nat.lt_irrefl _)

end Cursor

end ActiveRules
