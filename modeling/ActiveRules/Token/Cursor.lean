import ActiveRules.Token.Scan

/-!
# The tokens of a text

A cursor stands somewhere in a text.  It moves forward one token at a time and knows its position,
so tokens can be taken one by one or all together.

## Main definitions

* `Cursor`: the text still ahead and the position reached.
* `Cursor.next?`: the next token and the cursor behind it; nothing at the end of the text.
* `Cursor.next`: the same, where the end of the text counts as a token that never runs out.
* `Cursor.tokens`: all tokens ahead.
-/

namespace ActiveRules

/-- A place in a text together with the text still ahead. -/
structure Cursor where
  rest : List Char
  position : Position

namespace Cursor

/-- A cursor at the beginning of a text. -/
def ofText (text : String) : Cursor := ⟨text.toList, .start⟩

/-- The cursor behind the trivia ahead. -/
def skipTrivia (cursor : Cursor) : Cursor :=
  let (trivia, rest) := Trivia.split cursor.rest
  ⟨rest, cursor.position.afterAll trivia⟩

/-- The next token and the cursor behind it; nothing if only trivia are ahead. -/
def next? (cursor : Cursor) : Option (Token × Cursor) :=
  let start := cursor.skipTrivia
  match start.rest with
  | [] => none
  | c :: text =>
    let scan := Scan.first c text
    some (⟨scan.kind, .ofList scan.lexeme, start.position⟩,
      ⟨scan.rest, start.position.afterAll scan.lexeme⟩)

/-- The token that stands for the end of the text. -/
def finish (cursor : Cursor) : Token := ⟨.finish, "", cursor.skipTrivia.position⟩

/-- The next token and the cursor behind it.  Behind the last one the end of the text follows
again and again. -/
def next (cursor : Cursor) : Token × Cursor :=
  cursor.next?.getD (cursor.finish, cursor.skipTrivia)

theorem length_next?_lt {cursor later : Cursor} {token : Token}
    (found : cursor.next? = some (token, later)) : later.rest.length < cursor.rest.length := by
  have skipped := Trivia.length_split_le cursor.rest
  unfold next? skipTrivia at found
  simp only at found
  split at found
  · cases found
  · next c text ahead =>
    cases found
    have := Scan.length_first_rest_le c text
    rw [ahead, List.length_cons] at skipped
    show (Scan.first c text).rest.length < _
    omega

/-- The tokens ahead, in order, without the end of the text. -/
def tokens (cursor : Cursor) : List Token :=
  match _ : cursor.next? with
  | none => []
  | some (token, later) => token :: tokens later
termination_by cursor.rest.length
decreasing_by exact length_next?_lt ‹_›

/-- The cursor behind a number of tokens, where the end of the text counts as a token. -/
def advance (cursor : Cursor) : Nat → Cursor
  | 0 => cursor
  | count + 1 => cursor.next.2.advance count

/-- The token that the end of the text is, seen from anywhere before it. -/
def last (cursor : Cursor) : Token := (cursor.advance cursor.tokens.length).finish

end Cursor

/-- The tokens of a text, in order, without its end. -/
def tokensOf (text : String) : List Token := (Cursor.ofText text).tokens

end ActiveRules
