import ActiveRules.Proofs.Stream
import ActiveRules.Proofs.Trivia

/-!
# Tokens tile their text

A text is made up of its tokens and of the trivia in front of them, between them and behind them.
Nothing is lost, nothing is covered twice, and every token says truly where it stands.  That is so
for every text, flawed ones included.

## Main definitions

* `Position.behind`: the place behind a front of a text, by the bytes, line feeds and characters in
  that front.
* `Cursor.ending`: the place where the text ahead of a cursor ends.
* `Cursor.StandsIn`: a cursor stands truly somewhere in a text.
* `Tiles`: tokens and trivia that make up a text.

## Main statements

* `Position.afterAll_behind`: a place that is moved along a text stays true.
* `Cursor.token_of_length_le`: behind the last token the stream stays at the end of the text.
* `Cursor.exists_front`, `Cursor.exists_place`: where a token stands, and what it is there.
* `Cursor.tiles`: the tokens ahead of a cursor tile the text ahead of it.
* `tokens_tile_text`: what that says of the tokens of a text and of the end behind them.
-/

namespace ActiveRules

/-! ## Places in a text -/

/-- The bytes of a text are those of its first character and of the rest. -/
theorem utf8ByteSize_cons (c : Char) (text : List Char) :
    (String.ofList (c :: text)).utf8ByteSize =
      c.utf8Size + (String.ofList text).utf8ByteSize := by
  rw [← List.singleton_append, String.ofList_append, String.utf8ByteSize_append,
    ← String.singleton_eq_ofList, String.utf8ByteSize_singleton]

theorem utf8ByteSize_pos {text : List Char} (nonempty : text ≠ []) :
    0 < (String.ofList text).utf8ByteSize := by
  obtain ⟨c, rest, rfl⟩ := List.exists_cons_of_ne_nil nonempty
  rw [utf8ByteSize_cons]
  exact Nat.lt_of_lt_of_le c.utf8Size_pos (Nat.le_add_right _ _)

namespace Position

/-- The place behind a front of a text.  Its line is one more than the line feeds in the front, and
its column one more than the characters behind the last of them. -/
def behind (front : List Char) : Position where
  offset := (String.ofList front).utf8ByteSize
  line := 1 + front.count '\n'
  column := 1 + (front.reverse.takeWhile (· != '\n')).length

theorem behind_nil : behind [] = start := rfl

theorem offset_behind_append (front text : List Char) :
    (behind (front ++ text)).offset =
      (behind front).offset + (String.ofList text).utf8ByteSize := by
  simp only [behind, String.ofList_append, String.utf8ByteSize_append]

/-- Two fronts of a text that are equally long in bytes are the same. -/
theorem eq_of_behind_eq {front other back more : List Char}
    (parts : front ++ back = other ++ more) (place : behind front = behind other) :
    front = other := by
  have empty {longer shorter between : List Char} (split : longer = shorter ++ between)
      (place : behind longer = behind shorter) : longer = shorter := by
    subst split
    have bytes := congrArg offset place
    rw [offset_behind_append] at bytes
    by_cases nothing : between = []
    · rw [nothing, List.append_nil]
    · have := utf8ByteSize_pos nothing
      omega
  rcases List.append_eq_append_iff.mp parts with ⟨between, split, -⟩ | ⟨between, split, -⟩
  · exact (empty split place.symm).symm
  · exact empty split place

theorem behind_concat (front : List Char) (c : Char) :
    behind (front ++ [c]) = (behind front).after c := by
  have bytes : (behind (front ++ [c])).offset = (behind front).offset + c.utf8Size := by
    rw [offset_behind_append, ← String.singleton_eq_ofList, String.utf8ByteSize_singleton]
  unfold after
  split
  · next lineFeed =>
    subst lineFeed
    rw [← bytes]
    simp [behind, List.count_append, Nat.add_assoc]
  · next visible =>
    rw [← bytes]
    simp [behind, List.count_append, visible, Nat.add_comm]

/-- A place that is moved along a text is the place behind that text too. -/
theorem afterAll_behind (front text : List Char) :
    (behind front).afterAll text = behind (front ++ text) := by
  induction text generalizing front with
  | nil => rw [List.append_nil]; rfl
  | cons c text ih =>
    rw [List.append_cons, ← ih, behind_concat]
    rfl

theorem offset_after (position : Position) (c : Char) :
    (position.after c).offset = position.offset + c.utf8Size := by
  unfold after
  split <;> rfl

/-- A place that is moved along a text is moved by its bytes. -/
theorem offset_afterAll (position : Position) (text : List Char) :
    (position.afterAll text).offset = position.offset + (String.ofList text).utf8ByteSize := by
  induction text generalizing position with
  | nil => rfl
  | cons c text ih =>
    show ((position.after c).afterAll text).offset = _
    rw [ih, offset_after, utf8ByteSize_cons, Nat.add_assoc]

theorem afterAll_append (position : Position) (text more : List Char) :
    position.afterAll (text ++ more) = (position.afterAll text).afterAll more :=
  List.foldl_append

end Position

/-! ## The end of the text -/

namespace Cursor

variable {cursor later : Cursor} {first : Token}

/-- The place where the text ahead ends. -/
def ending (cursor : Cursor) : Position := cursor.position.afterAll cursor.rest

theorem ending_skipTrivia (cursor : Cursor) : cursor.skipTrivia.ending = cursor.ending := by
  show (cursor.position.afterAll (Trivia.split cursor.rest).1).afterAll
    (Trivia.split cursor.rest).2 = _
  rw [← Position.afterAll_append, Trivia.split_append]
  rfl

/-- Behind a token the text ends where it ended in front of it. -/
theorem ending_of_next? (found : cursor.next? = some (first, later)) :
    later.ending = cursor.ending := by
  obtain ⟨c, text, ahead, -, rfl⟩ := exists_scan_of_next? found
  have rest : cursor.skipTrivia.rest = c :: text := ahead
  rw [← ending_skipTrivia cursor, ending, ending, rest, ← Scan.first_append c text,
    Position.afterAll_append]

/-- Behind the trivia ahead there are none. -/
theorem skipTrivia_skipTrivia (cursor : Cursor) :
    cursor.skipTrivia.skipTrivia = cursor.skipTrivia := by
  have stands := Trivia.split_split cursor.rest
  simp [skipTrivia, stands, Position.afterAll]

/-- The next token does not depend on the trivia in front of it. -/
theorem next?_skipTrivia (cursor : Cursor) : cursor.skipTrivia.next? = cursor.next? := by
  rw [next?, skipTrivia_skipTrivia, next?]

theorem finish_of_next?_eq_none (ended : cursor.next? = none) :
    cursor.finish = ⟨.finish, "", cursor.ending⟩ := by
  have blank : cursor.skipTrivia.rest = [] := split_of_next?_eq_none ended
  rw [finish, ← ending_skipTrivia, ending, blank]
  rfl

/-- A cursor with only trivia ahead yields the end of the text again and again. -/
theorem token_of_next?_eq_none (ended : cursor.next? = none) (count : Nat) :
    cursor.token count = ⟨.finish, "", cursor.ending⟩ := by
  induction count generalizing cursor with
  | zero =>
    rw [token, advance, next_of_next?_eq_none ended, finish_of_next?_eq_none ended]
  | succ count ih =>
    have still : cursor.skipTrivia.next? = none := by rw [next?_skipTrivia, ended]
    rw [token, advance, next_of_next?_eq_none ended, ← token, ih still, ending_skipTrivia]

theorem ending_advance (cursor : Cursor) (count : Nat) :
    (cursor.advance count).ending = cursor.ending := by
  induction count generalizing cursor with
  | zero => rfl
  | succ count ih =>
    rw [advance, ih]
    cases found : cursor.next? with
    | none => rw [next_of_next?_eq_none found, ending_skipTrivia]
    | some pair => rw [next_of_next?_eq_some found, ending_of_next? found]

/-- Behind the last token the stream stays at the end of the text. -/
theorem token_of_length_le {count : Nat} (beyond : cursor.tokens.length ≤ count) :
    cursor.token count = ⟨.finish, "", cursor.ending⟩ := by
  obtain ⟨more, rfl⟩ := Nat.exists_eq_add_of_le beyond
  rw [← token_advance, token_of_next?_eq_none cursor.next?_advance_length, ending_advance]

end Cursor

/-! ## Where the tokens stand -/

namespace Cursor

variable {text : List Char} {cursor later : Cursor} {token : Token}

/-- A cursor stands truly somewhere in a text: what is ahead of it is an end of the text, and its
position is the place behind the front. -/
def StandsIn (text : List Char) (cursor : Cursor) : Prop :=
  ∃ front, text = front ++ cursor.rest ∧ cursor.position = .behind front

theorem standsIn_ofText (text : String) : (ofText text).StandsIn text.toList :=
  ⟨[], rfl, Position.behind_nil.symm⟩

namespace StandsIn

theorem skipTrivia (stands : cursor.StandsIn text) : cursor.skipTrivia.StandsIn text := by
  obtain ⟨front, parts, place⟩ := stands
  refine ⟨front ++ (Trivia.split cursor.rest).1, ?_, ?_⟩
  · rw [parts, List.append_assoc]
    exact congrArg _ (Trivia.split_append cursor.rest).symm
  · rw [← Position.afterAll_behind, ← place]
    rfl

theorem of_next? (stands : cursor.StandsIn text) (found : cursor.next? = some (token, later)) :
    later.StandsIn text := by
  obtain ⟨c, rest, ahead, -, rfl⟩ := exists_scan_of_next? found
  obtain ⟨front, parts, place⟩ := stands.skipTrivia
  have skipped : cursor.skipTrivia.rest = c :: rest := ahead
  refine ⟨front ++ (Scan.first c rest).lexeme, ?_, ?_⟩
  · rw [parts, skipped, List.append_assoc, Scan.first_append]
  · rw [← Position.afterAll_behind, ← place]

/-- However many tokens are taken, the cursor stands in the text. -/
theorem advance (stands : cursor.StandsIn text) (count : Nat) :
    (cursor.advance count).StandsIn text := by
  induction count generalizing cursor with
  | zero => exact stands
  | succ count ih =>
    rw [Cursor.advance]
    cases found : cursor.next? with
    | none =>
      rw [next_of_next?_eq_none found]
      exact ih stands.skipTrivia
    | some pair =>
      rw [next_of_next?_eq_some found]
      exact ih (stands.of_next? found)

end StandsIn

/-- A token stands somewhere in the text, where no trivia are ahead, and is what is found there. -/
theorem exists_front {text : String} {i : Nat} (inside : i < (ofText text).tokens.length) :
    ∃ front c rest, text.toList = front ++ c :: rest ∧
      Trivia.split (c :: rest) = ([], c :: rest) ∧
      (ofText text).token i =
        ⟨(Scan.first c rest).kind, .ofList (Scan.first c rest).lexeme, .behind front⟩ := by
  obtain ⟨front, parts, place⟩ := ((standsIn_ofText text).advance i).skipTrivia
  obtain ⟨c, rest, ahead, made, -⟩ := exists_scan_of_next? (next?_advance inside)
  have skipped : ((ofText text).advance i).skipTrivia.rest = c :: rest := ahead
  have stands := Trivia.split_split ((ofText text).advance i).rest
  rw [skipped] at parts
  rw [ahead] at stands
  rw [place] at made
  exact ⟨front, c, rest, parts, stands, made⟩

/-- Where a token stands, and the character that it begins with. -/
theorem exists_place {text : String} {i : Nat}
    (inside : i < (ofText text).tokens.length) :
    ∃ front c rest, text.toList = front ++ c :: rest ∧
      ((ofText text).token i).position = .behind front ∧
      ((ofText text).token i).lexeme.toList.head? = some c ∧
      Trivia.split (c :: rest) = ([], c :: rest) := by
  obtain ⟨front, c, rest, parts, stands, made⟩ := exists_front inside
  refine ⟨front, c, rest, parts, ?_, ?_, stands⟩
  · rw [made]
  · rw [made, String.toList_ofList, Scan.head?_lexeme_first]

end Cursor

/-! ## Tokens and trivia -/

/-- Tokens that, together with the trivia between them, make up a text behind a front. -/
inductive Tiles : List Char → List Token → List Char → Prop where
  /-- Behind the last token only trivia are left. -/
  | finish {front gap : List Char} (trivia : Trivia.Precedes gap []) : Tiles front [] gap
  /-- A token stands behind trivia, and the others behind the token. -/
  | token {front gap lexeme rest : List Char} {token : Token} {tokens : List Token}
      (trivia : Trivia.Precedes gap (lexeme ++ rest)) (nonempty : lexeme ≠ [])
      (spells : token.lexeme = .ofList lexeme) (stands : token.position = .behind (front ++ gap))
      (others : Tiles (front ++ gap ++ lexeme) tokens rest) :
      Tiles front (token :: tokens) (gap ++ (lexeme ++ rest))

/-- The tokens ahead of a cursor tile the text ahead of it. -/
theorem Cursor.tiles (cursor : Cursor) {front : List Char}
    (stands : cursor.position = .behind front) : Tiles front cursor.tokens cursor.rest := by
  induction cursor using Cursor.tokens.induct generalizing front with
  | case1 cursor ended =>
    have parts := Trivia.split_append cursor.rest
    have trivia := Trivia.split_precedes cursor.rest
    have blank := split_of_next?_eq_none ended
    rw [blank, List.append_nil] at parts
    rw [blank, parts] at trivia
    rw [tokens_of_next?_eq_none ended]
    exact .finish trivia
  | case2 cursor token later found ih =>
    have parts := Trivia.split_append cursor.rest
    have trivia := Trivia.split_precedes cursor.rest
    have moved : cursor.skipTrivia.position =
        .behind (front ++ (Trivia.split cursor.rest).1) := by
      rw [← Position.afterAll_behind, ← stands]
      rfl
    rw [tokens_of_next?_eq_some found]
    obtain ⟨c, text, ahead, rfl, rfl⟩ := exists_scan_of_next? found
    rw [ahead, ← Scan.first_append c text] at parts trivia
    rw [← parts]
    refine .token trivia (Scan.first_lexeme_ne_nil c text) rfl moved (ih ?_)
    rw [← Position.afterAll_behind, ← moved]

namespace Tiles

variable {front text : List Char} {tokens : List Token}

/-- There are no more tokens than bytes. -/
theorem length_le (tiles : Tiles front tokens text) :
    tokens.length ≤ (String.ofList text).utf8ByteSize := by
  induction tiles with
  | finish => exact Nat.zero_le _
  | @token front gap lexeme rest token tokens _ nonempty _ _ _ ih =>
    have bytes := utf8ByteSize_pos nonempty
    rw [String.ofList_append, String.ofList_append, String.utf8ByteSize_append,
      String.utf8ByteSize_append, List.length_cons]
    omega

/-- Every token covers its own characters, and stands behind those in front of them. -/
theorem exists_of_mem (tiles : Tiles front tokens text) {token : Token} (member : token ∈ tokens) :
    token.lexeme ≠ "" ∧ ∃ before after,
      front ++ text = before ++ token.lexeme.toList ++ after ∧ token.position = .behind before := by
  induction tiles with
  | finish => cases member
  | @token front gap lexeme rest first tokens _ nonempty spells stands _ ih =>
    rcases List.mem_cons.mp member with rfl | further
    · have characters : token.lexeme.toList = lexeme := by rw [spells, String.toList_ofList]
      refine ⟨?_, front ++ gap, rest, ?_, stands⟩
      · rintro empty
        rw [empty] at characters
        exact nonempty characters.symm
      · rw [characters]
        simp
    · have covered := ih further
      simpa using covered

end Tiles

/-- A token ends before the next one begins. -/
theorem Cursor.offset_add_le {cursor : Cursor} {count : Nat}
    (inside : count < cursor.tokens.length) :
    (cursor.token count).position.offset + (cursor.token count).lexeme.utf8ByteSize ≤
      (cursor.token (count + 1)).position.offset := by
  obtain ⟨c, text, -, made, moved⟩ := exists_scan_of_next? (next?_advance inside)
  have ended : (cursor.advance (count + 1)).position.offset =
      (cursor.token count).position.offset + (cursor.token count).lexeme.utf8ByteSize := by
    rw [moved, made, Position.offset_afterAll]
  rw [token_position cursor (count + 1), ← ended]
  exact Position.offset_le_afterAll _ _

/-- Tokens tile every text.  Each covers characters of its own at the place that it says it stands
at, ends before the next one begins, and between them only blanks and comments are left.  There are
no more tokens than bytes, and behind the last of them stands the end of the text, again and
again. -/
theorem tokens_tile_text (text : String) :
    let cursor := Cursor.ofText text
    let count := cursor.tokens.length
    count ≤ text.utf8ByteSize ∧
    (∀ i < count, (cursor.token i).kind ≠ .finish ∧ (cursor.token i).lexeme ≠ "" ∧
      (∃ front back : String, text = front ++ (cursor.token i).lexeme ++ back ∧
        (cursor.token i).position = .behind front.toList) ∧
      (cursor.token i).position.offset + (cursor.token i).lexeme.utf8ByteSize ≤
        (cursor.token (i + 1)).position.offset) ∧
    (∀ i ≥ count, cursor.token i = ⟨.finish, "", .behind text.toList⟩) ∧
    Tiles [] ((List.range count).map cursor.token) text.toList := by
  intro cursor count
  have tiles : Tiles [] cursor.tokens text.toList := cursor.tiles Position.behind_nil.symm
  refine ⟨?_, ?_, ?_, ?_⟩
  · have bytes := tiles.length_le
    rw [String.ofList_toList] at bytes
    exact bytes
  · intro i inside
    have member := List.mem_of_getElem? (cursor.getElem?_tokens inside)
    obtain ⟨nonempty, before, after, parts, stands⟩ := tiles.exists_of_mem member
    refine ⟨Cursor.token_kind_ne_finish inside, nonempty, ?_, Cursor.offset_add_le inside⟩
    refine ⟨.ofList before, .ofList after, ?_, ?_⟩
    · rw [← String.toList_inj]
      simpa using parts
    · rw [String.toList_ofList]
      exact stands
  · intro i beyond
    rw [Cursor.token_of_length_le beyond]
    exact congrArg _ (Position.afterAll_behind [] text.toList)
  · rw [← cursor.tokens_eq_map]
    exact tiles

end ActiveRules
