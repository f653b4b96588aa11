import ActiveRules.Token.Cursor

/-!
# The kinds of the tokens ahead

What a reader makes of a text depends on the kinds of its tokens alone, and these depend on the
text ahead of a cursor and not on the place that the cursor stands at.

## Main definitions

* `kindsAhead`: the kinds of the tokens of a text, in order, without its end.
* `Scan.Reads`: a spelling in front of a text is exactly one token of that text.

## Main statements

* `Cursor.tokens_kind`: the kinds of the tokens ahead of a cursor.
* `kindsAhead_of_reads`: a spelling that is one token, and what follows it.
-/

namespace ActiveRules

namespace Cursor

theorem tokens_of_next?_eq_none {cursor : Cursor} (ended : cursor.next? = none) :
    cursor.tokens = [] := by
  rw [tokens]
  split
  · rfl
  · next found => rw [ended] at found; cases found

theorem tokens_of_next?_eq_some {cursor later : Cursor} {token : Token}
    (found : cursor.next? = some (token, later)) : cursor.tokens = token :: later.tokens := by
  rw [tokens]
  split
  · next ended => rw [found] at ended; cases ended
  · next again => rw [found] at again; cases again; rfl

theorem next?_eq_none {cursor : Cursor} (blank : (Trivia.split cursor.rest).2 = []) :
    cursor.next? = none := by
  simp [next?, skipTrivia, blank]

theorem next?_eq_some {cursor : Cursor} {c : Char} {text : List Char}
    (ahead : (Trivia.split cursor.rest).2 = c :: text) : cursor.next? =
      some (⟨(Scan.first c text).kind, .ofList (Scan.first c text).lexeme,
          cursor.skipTrivia.position⟩,
        ⟨(Scan.first c text).rest,
          cursor.skipTrivia.position.afterAll (Scan.first c text).lexeme⟩) := by
  simp [next?, skipTrivia, ahead]

/-- Where no token is found, only trivia are ahead. -/
theorem split_of_next?_eq_none {cursor : Cursor} (ended : cursor.next? = none) :
    (Trivia.split cursor.rest).2 = [] := by
  cases ahead : (Trivia.split cursor.rest).2 with
  | nil => rfl
  | cons c text =>
    rw [next?_eq_some ahead] at ended
    cases ended

/-- Where a token is found, it is the one that the text behind the trivia begins with. -/
theorem exists_scan_of_next? {cursor later : Cursor} {token : Token}
    (found : cursor.next? = some (token, later)) :
    ∃ c text, (Trivia.split cursor.rest).2 = c :: text ∧
      token = ⟨(Scan.first c text).kind, .ofList (Scan.first c text).lexeme,
        cursor.skipTrivia.position⟩ ∧
      later = ⟨(Scan.first c text).rest,
        cursor.skipTrivia.position.afterAll (Scan.first c text).lexeme⟩ := by
  cases ahead : (Trivia.split cursor.rest).2 with
  | nil =>
    rw [next?_eq_none ahead] at found
    cases found
  | cons c text =>
    rw [next?_eq_some ahead] at found
    cases found
    exact ⟨c, text, rfl, rfl, rfl⟩

/-- Every token ahead was found at the beginning of some text. -/
theorem exists_scan_of_mem {cursor : Cursor} {token : Token} (member : token ∈ cursor.tokens) :
    ∃ c text, token.kind = (Scan.first c text).kind ∧
      token.lexeme = .ofList (Scan.first c text).lexeme := by
  induction cursor using Cursor.tokens.induct with
  | case1 cursor ended =>
    rw [tokens_of_next?_eq_none ended] at member
    cases member
  | case2 cursor first later found ih =>
    rw [tokens_of_next?_eq_some found] at member
    rcases List.mem_cons.mp member with rfl | further
    · obtain ⟨c, text, -, rfl, -⟩ := exists_scan_of_next? found
      exact ⟨c, text, rfl, rfl⟩
    · exact ih further

end Cursor

/-- The kinds of the tokens of a text, in order, without its end. -/
def kindsAhead (text : List Char) : List Kind := (Cursor.tokens ⟨text, .start⟩).map Token.kind

/-- Two cursors with the same text ahead see tokens of the same kinds. -/
theorem Cursor.tokens_kind_congr (cursor other : Cursor) (same : cursor.rest = other.rest) :
    cursor.tokens.map Token.kind = other.tokens.map Token.kind := by
  induction cursor using Cursor.tokens.induct generalizing other with
  | case1 cursor ended =>
    have blank : (Trivia.split cursor.rest).2 = [] := split_of_next?_eq_none ended
    rw [tokens_of_next?_eq_none ended, tokens_of_next?_eq_none (next?_eq_none (same ▸ blank))]
  | case2 cursor first later found ih =>
    -- Both make the same token and go on with the same text, each from a place of its own.
    rw [tokens_of_next?_eq_some found, List.map_cons]
    obtain ⟨c, text, ahead, rfl, rfl⟩ := exists_scan_of_next? found
    have otherFound := next?_eq_some (same ▸ ahead : (Trivia.split other.rest).2 = c :: text)
    rw [tokens_of_next?_eq_some otherFound, List.map_cons]
    exact congrArg _ (ih _ rfl)

/-- The kinds of the tokens ahead of a cursor. -/
theorem Cursor.tokens_kind (cursor : Cursor) :
    cursor.tokens.map Token.kind = kindsAhead cursor.rest :=
  tokens_kind_congr cursor ⟨cursor.rest, .start⟩ rfl

theorem kindsAhead_of_split_nil {text : List Char} (blank : (Trivia.split text).2 = []) :
    kindsAhead text = [] := by
  rw [kindsAhead, Cursor.tokens_of_next?_eq_none (Cursor.next?_eq_none blank), List.map_nil]

theorem kindsAhead_of_split_cons {text rest : List Char} {c : Char}
    (ahead : (Trivia.split text).2 = c :: rest) :
    kindsAhead text = (Scan.first c rest).kind :: kindsAhead (Scan.first c rest).rest := by
  rw [kindsAhead, Cursor.tokens_of_next?_eq_some (Cursor.next?_eq_some ahead), List.map_cons,
    Cursor.tokens_kind]

/-! ## Blanks -/

theorem Trivia.split_cons_of_isBlank {c : Char} (blank : Text.isBlank c = true)
    (text : List Char) : split (c :: text) = (c :: (split text).1, (split text).2) := by
  rw [split, if_pos blank]

theorem Trivia.split_cons_of_visible {c : Char} (visible : Text.isBlank c = false)
    (noComment : c ≠ '#') (text : List Char) : split (c :: text) = ([], c :: text) := by
  rw [split, if_neg (by rw [visible]; decide), if_neg noComment]

@[simp]
theorem kindsAhead_nil : kindsAhead [] = [] :=
  kindsAhead_of_split_nil (by rw [Trivia.split])

/-- A blank in front of a text changes no token. -/
theorem kindsAhead_blank {c : Char} (blank : Text.isBlank c = true) (rest : List Char) :
    kindsAhead (c :: rest) = kindsAhead rest := by
  have skipped := congrArg Prod.snd (Trivia.split_cons_of_isBlank blank rest)
  cases ahead : (Trivia.split rest).2 with
  | nil => rw [kindsAhead_of_split_nil (skipped.trans ahead), kindsAhead_of_split_nil ahead]
  | cons d text =>
    rw [kindsAhead_of_split_cons (skipped.trans ahead), kindsAhead_of_split_cons ahead]

@[simp]
theorem kindsAhead_space (rest : List Char) : kindsAhead (' ' :: rest) = kindsAhead rest :=
  kindsAhead_blank rfl rest

/-! ## One token -/

/-- A token begins with the character that it was found at. -/
theorem Scan.head?_lexeme_first (c : Char) (text : List Char) :
    (first c text).lexeme.head? = some c := by
  have parts := first_append c text
  obtain ⟨d, others, lexeme⟩ := List.exists_cons_of_ne_nil (first_lexeme_ne_nil c text)
  rw [lexeme, List.cons_append] at parts
  rw [lexeme, (List.cons.inj parts).1]
  rfl

/-- What the first character of a token says about the scanner that finds it. -/
theorem Scan.first_cases (c : Char) (text : List Char) :
    (c = '"' ∧ first c text = string text) ∨
    (c.isDigit = true ∧ first c text = number false (c :: text)) ∨
    (c = '-' ∧ text.head?.any Char.isDigit = true ∧ first c text = number true text) ∨
    (∃ found, symbol? (c :: text) = some found ∧ first c text = found) ∨
    (startsWord c = true ∧ first c text = word c text) ∨
    first c text = ⟨.flaw .unrecognizedCharacter, [c], text⟩ := by
  unfold first
  split
  · next quote => exact .inl ⟨quote, rfl⟩
  · split
    · next digit => exact .inr (.inl ⟨digit, rfl⟩)
    · split
      · next sign => exact .inr (.inr (.inl ⟨sign.1, sign.2, rfl⟩))
      · split
        · next found read => exact .inr (.inr (.inr (.inl ⟨found, read, rfl⟩)))
        · split
          · next starts => exact .inr (.inr (.inr (.inr (.inl ⟨starts, rfl⟩))))
          · exact .inr (.inr (.inr (.inr (.inr rfl))))

/-- A spelling in front of a text is exactly one token of that text. -/
inductive Scan.Reads : List Char → Kind → List Char → Prop where
  | intro {c : Char} {text rest : List Char} {kind : Kind} (visible : Text.isBlank c = false)
      (noComment : c ≠ '#') (first : Scan.first c (text ++ rest) = ⟨kind, c :: text, rest⟩) :
      Scan.Reads (c :: text) kind rest

/-- A spelling that is one token is found as that token. -/
theorem Scan.Reads.first_eq {spelling text rest : List Char} {kind : Kind} {c : Char}
    (reads : Scan.Reads spelling kind rest) (parts : c :: text = spelling ++ rest) :
    Scan.first c text = ⟨kind, spelling, rest⟩ := by
  cases reads with
  | intro visible noComment first =>
    obtain ⟨rfl, rfl⟩ := List.cons.inj parts
    exact first

/-- A spelling that is one token, and what follows it. -/
theorem kindsAhead_of_reads {spelling rest : List Char} {kind : Kind}
    (reads : Scan.Reads spelling kind rest) :
    kindsAhead (spelling ++ rest) = kind :: kindsAhead rest := by
  cases reads with
  | @intro c text _ _ visible noComment first =>
    have ahead := congrArg Prod.snd (Trivia.split_cons_of_visible visible noComment (text ++ rest))
    rw [List.cons_append, kindsAhead_of_split_cons ahead, first]

end ActiveRules
