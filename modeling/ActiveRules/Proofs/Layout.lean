import ActiveRules.Proofs.FirstOffence
import ActiveRules.Proofs.Separation
import ActiveRules.Proofs.Tiling

/-!
# Layout does not matter

A text can be laid out anew: its lexemes stay, and other blanks and comments stand in front of them,
between them and behind them.  Unless a token of the text is flawed the new text has the same
tokens, at other places, and every reader makes the same of both texts.

## Main definitions

* `Trivia.IsLayout`: blanks and comments that do not depend on what follows them.
* `Layout`: what stands in front of, between and behind a number of tokens.
* `Layout.spread`: the lexemes of tokens laid out.
* `ReadAlike`: the same answer to two texts, or the same diagnostic of tokens of one number.

## Main statements

* `Cursor.tokens_spread`: a text that is laid out has the tokens that were laid out.
* `Reader.readAlike_of_kinds`: a reader goes by the kinds of the tokens.
* `layout_does_not_matter`: both together, for rules and for headers.
-/

namespace ActiveRules

/-! ## Blanks and closed comments -/

/-- Blanks, and comments together with the line feeds that end them. -/
inductive Trivia.IsLayout : List Char → Prop where
  | nil : IsLayout []
  | blank {c : Char} {others : List Char} (blank : Text.isBlank c = true)
      (layout : IsLayout others) : IsLayout (c :: others)
  | comment {body others : List Char} (inLine : ∀ c ∈ body, c ≠ '\n' ∧ c ≠ '\r')
      (layout : IsLayout others) : IsLayout ('#' :: body ++ '\n' :: others)

namespace Trivia.IsLayout

variable {gap : List Char}

/-- Such a text is trivia in front of any other. -/
theorem precedes (layout : IsLayout gap) (rest : List Char) : Precedes gap rest := by
  induction layout with
  | nil => exact .nil
  | blank blank _ ih => exact .blank blank ih
  | comment inLine _ ih => exact .comment inLine trivial (.blank rfl ih)

/-- It sets apart what stands in front of it, unless it is empty and something follows. -/
theorem setApart (layout : IsLayout gap) {rest : List Char} (apart : gap = [] → rest = []) :
    SetApart (gap ++ rest) := by
  intro c ahead
  cases layout with
  | nil =>
    rw [apart rfl] at ahead
    cases ahead
  | blank blank _ =>
    cases ahead
    exact .inl blank
  | comment =>
    cases ahead
    exact .inr rfl

end Trivia.IsLayout

/-! ## Tokens laid out -/

/-- What stands in front of, between and behind a number of tokens.  Between two tokens there is
something. -/
structure Layout (count : Nat) where
  gap : Nat → List Char
  isLayout : ∀ i ≤ count, Trivia.IsLayout (gap i)
  apart : ∀ i, 0 < i → i < count → gap i ≠ []

namespace Layout

/-- The layout behind the first token. -/
def tail {count : Nat} (layout : Layout (count + 1)) : Layout count where
  gap i := layout.gap (i + 1)
  isLayout i inside := layout.isLayout (i + 1) (Nat.succ_le_succ inside)
  apart i _ inside := layout.apart (i + 1) i.succ_pos (Nat.succ_lt_succ inside)

/-- The same behind every token, and nothing in front of the first. -/
def uniform {gap : List Char} (layout : Trivia.IsLayout gap) (nonempty : gap ≠ []) (count : Nat) :
    Layout count where
  gap i := if i = 0 then [] else gap
  isLayout i _ := by
    split
    · exact .nil
    · exact layout
  apart i positive _ := by
    rw [if_neg (Nat.ne_of_gt positive)]
    exact nonempty

/-- The lexemes of tokens laid out. -/
def spread : (tokens : List Token) → Layout tokens.length → List Char
  | [], layout => layout.gap 0
  | token :: tokens, layout => layout.gap 0 ++ (token.lexeme.toList ++ spread tokens layout.tail)

/-- Every token is set apart from what follows it. -/
theorem setApart_spread {tokens : List Token} (layout : Layout (tokens.length + 1)) :
    SetApart (spread tokens layout.tail) := by
  cases tokens with
  | nil =>
    have last := layout.isLayout 1 (Nat.le_refl 1)
    have whole : SetApart (layout.gap 1 ++ []) := last.setApart fun _ => rfl
    rw [List.append_nil] at whole
    exact whole
  | cons token tokens =>
    have between := layout.isLayout 1 (by simp)
    exact between.setApart fun empty => absurd empty (layout.apart 1 (by simp) (by simp))

end Layout

/-- The kind of a token and its lexeme, wherever it stands. -/
def Token.content (token : Token) : Kind × String := (token.kind, token.lexeme)

namespace Cursor

/-- A token that is read behind trivia is the next one. -/
theorem next?_of_reads {gap spelling rest : List Char} {kind : Kind}
    (trivia : Trivia.Precedes gap (spelling ++ rest)) (reads : Scan.Reads spelling kind rest)
    (position : Position) : next? ⟨gap ++ (spelling ++ rest), position⟩ =
      some (⟨kind, .ofList spelling, position.afterAll gap⟩,
        ⟨rest, (position.afterAll gap).afterAll spelling⟩) := by
  cases reads with
  | @intro c text _ _ visible noComment first =>
    have stands := Trivia.split_cons_of_visible visible noComment (text ++ rest)
    have whole : Trivia.split (gap ++ (c :: text ++ rest)) = (gap, c :: (text ++ rest)) := by
      rw [Trivia.split_append_of_precedes trivia, List.cons_append, stands, List.append_nil]
    rw [next?_eq_some (congrArg Prod.snd whole), first, skipTrivia, whole]

/-- A text that is laid out has the tokens that were laid out. -/
theorem tokens_spread {tokens : List Token} (layout : Layout tokens.length)
    (each : ∀ token ∈ tokens, ∀ rest, SetApart rest →
      Scan.Reads token.lexeme.toList token.kind rest) (position : Position) :
    (Cursor.tokens ⟨layout.spread tokens, position⟩).map Token.content =
      tokens.map Token.content := by
  induction tokens generalizing position with
  | nil =>
    have trivia := (layout.isLayout 0 (Nat.zero_le _)).precedes []
    have blank := congrArg Prod.snd (Trivia.split_append_of_precedes trivia)
    rw [List.append_nil, Trivia.split] at blank
    rw [Layout.spread, tokens_of_next?_eq_none (next?_eq_none blank)]
  | cons token tokens ih =>
    have trivia := (layout.isLayout 0 (Nat.zero_le _)).precedes
      (token.lexeme.toList ++ layout.tail.spread tokens)
    have reads := each token List.mem_cons_self _ layout.setApart_spread
    have others (place : Position) :=
      ih layout.tail (fun token member => each token (List.mem_cons_of_mem _ member)) place
    rw [Layout.spread, tokens_of_next?_eq_some (next?_of_reads trivia reads position),
      List.map_cons, others, List.map_cons, Token.content, String.ofList_toList, Token.content]

end Cursor

/-! ## Readers go by kinds -/

namespace Cursor

variable {cursor other : Cursor}

/-- The kind of a token of the stream is that of the token ahead, or the end of the text. -/
theorem token_kind (cursor : Cursor) (count : Nat) :
    (cursor.token count).kind = ((cursor.tokens.map Token.kind)[count]?).getD .finish := by
  rw [List.getElem?_map]
  rcases Nat.lt_or_ge count cursor.tokens.length with inside | beyond
  · rw [cursor.getElem?_tokens inside]
    rfl
  · rw [token_of_length_le beyond, List.getElem?_eq_none beyond]
    rfl

theorem kindsBefore_eq_take (cursor : Cursor) (count : Nat) :
    cursor.kindsBefore count = (cursor.tokens.map Token.kind).take count := List.map_take

/-- In front of a token stand those in front of an earlier one, that one, and others. -/
theorem exists_kindsBefore_of_lt {count later : Nat} (before : count < later)
    (inside : later ≤ cursor.tokens.length) : ∃ back,
      cursor.kindsBefore later = cursor.kindsBefore count ++ (cursor.token count).kind :: back := by
  obtain ⟨more, rfl⟩ := Nat.exists_eq_add_of_lt before
  have here : (cursor.tokens.map Token.kind)[count]? = some (cursor.token count).kind := by
    rw [List.getElem?_map, cursor.getElem?_tokens (by omega)]
    rfl
  rw [kindsBefore_eq_take, kindsBefore_eq_take, Nat.add_right_comm, List.take_add,
    List.take_add_one, here, List.append_assoc]
  exact ⟨_, rfl⟩

/-- A stream without flaws among the tokens ahead has none at all. -/
theorem token_kind_ne_flaw {flaw : Flaw} (noFlaw : .flaw flaw ∉ cursor.tokens.map Token.kind)
    (count : Nat) : (cursor.token count).kind ≠ .flaw flaw := by
  rw [token_kind]
  cases here : (cursor.tokens.map Token.kind)[count]? with
  | none => rintro ⟨⟩
  | some kind =>
    rintro rfl
    exact noFlaw (List.mem_of_getElem? here)

end Cursor

namespace Reader

variable {R A : Type} {reader : Reader R A} {cursor other : Cursor} {count : Nat} {reading : R}

/-- A reader stops at tokens of one number where the kinds of the tokens are the same. -/
theorem StopsAt.congr (stops : reader.StopsAt cursor count reading)
    (same : cursor.tokens.map Token.kind = other.tokens.map Token.kind) :
    reader.StopsAt other count reading := by
  have length : cursor.tokens.length = other.tokens.length := by
    simpa using congrArg List.length same
  obtain ⟨inStream, run, refused, unfinished⟩ := stops
  rw [Cursor.kindsBefore_eq_take, same, ← Cursor.kindsBefore_eq_take] at run
  rw [Cursor.token_kind, same, ← Cursor.token_kind, length] at refused
  rw [length] at inStream unfinished
  exact ⟨inStream, run, refused, unfinished⟩

/-- A reader does not get beyond the token that it stops at. -/
theorem StopsAt.not_lt {later : Nat} {laterReading : R}
    (stops : reader.StopsAt cursor count reading)
    (stopsLater : reader.StopsAt cursor later laterReading) : ¬ count < later := by
  intro before
  obtain ⟨back, parts⟩ := Cursor.exists_kindsBefore_of_lt before stopsLater.inStream
  have refused := stops.refused (Nat.lt_of_lt_of_le before stopsLater.inStream)
  have run := stopsLater.run
  rw [parts, reading?, follow?_append_of_run stops.run, follow?_cons, refused] at run
  cases run

/-- A reader stops at one token and in one reading. -/
theorem StopsAt.unique {otherCount : Nat} {otherReading : R}
    (stops : reader.StopsAt cursor count reading)
    (again : reader.StopsAt cursor otherCount otherReading) :
    count = otherCount ∧ reading = otherReading := by
  obtain rfl : count = otherCount :=
    Nat.le_antisymm (Nat.le_of_not_lt (again.not_lt stops)) (Nat.le_of_not_lt (stops.not_lt again))
  exact ⟨rfl, Option.some.inj (stops.run.symm.trans again.run)⟩

end Reader

/-- The outcomes of reading two texts are alike: the same answer, or diagnostics of tokens of one
number that find and expect the same. -/
inductive ReadAlike {A : Type} (cursor other : Cursor) :
    Except Diagnostic A → Except Diagnostic A → Prop where
  | ok (answer : A) : ReadAlike cursor other (.ok answer) (.ok answer)
  | error {count : Nat} {found : Kind} (inStream : count ≤ cursor.tokens.length)
      (here : (cursor.token count).kind = found) (there : (other.token count).kind = found)
      (expected : List Expectation) :
      ReadAlike cursor other
        (.error (.unexpected (cursor.token count).position found expected))
        (.error (.unexpected (other.token count).position found expected))

theorem Diagnostic.ofToken_eq_unexpected {token : Token}
    (noFlaw : ∀ flaw, token.kind ≠ .flaw flaw) (expected : List Expectation) :
    ofToken token expected = .unexpected token.position token.kind expected := by
  unfold ofToken
  split
  · next flaw same => exact absurd same (noFlaw flaw)
  · rfl

/-- A reader makes the same of two texts whose tokens have the same kinds, none of them a flaw. -/
theorem Reader.readAlike_of_kinds {R A : Type} (reader : Reader R A) {cursor other : Cursor}
    (same : cursor.tokens.map Token.kind = other.tokens.map Token.kind)
    (noFlaw : ∀ flaw, .flaw flaw ∉ cursor.tokens.map Token.kind) :
    ReadAlike cursor other (reader.readFrom cursor).1 (reader.readFrom other).1 := by
  have accepts (answer : A) :
      (reader.readFrom cursor).1 = .ok answer ↔ (reader.readFrom other).1 = .ok answer := by
    show reader.read _ _ = _ ↔ reader.read _ _ = _
    rw [read_eq_ok_iff, read_eq_ok_iff, same]
  cases outcome : (reader.readFrom cursor).1 with
  | ok answer =>
    rw [(accepts answer).mp outcome]
    exact .ok answer
  | error diagnostic =>
    cases otherOutcome : (reader.readFrom other).1 with
    | ok answer =>
      rw [(accepts answer).mpr otherOutcome] at outcome
      cases outcome
    | error otherDiagnostic =>
      obtain ⟨count, reading, stops, rfl, -⟩ := stopsAt_of_read outcome
      obtain ⟨otherCount, otherReading, stopsThere, rfl, -⟩ := stopsAt_of_read otherOutcome
      obtain ⟨rfl, rfl⟩ := (stops.congr same).unique stopsThere
      have kind : (other.token count).kind = (cursor.token count).kind := by
        rw [Cursor.token_kind, Cursor.token_kind, same]
      have here (flaw : Flaw) := Cursor.token_kind_ne_flaw (noFlaw flaw) count
      rw [Diagnostic.ofToken_eq_unexpected here, Diagnostic.ofToken_eq_unexpected (kind ▸ here),
        kind]
      exact .error stops.inStream rfl kind _

/-- Layout does not matter.  If the tokens of a text, none of them flawed, are laid out anew, the
new text has tokens of the same kinds with the same lexemes, and it is read as a rule and as a
header like the old one. -/
theorem layout_does_not_matter (text : String)
    (noFlaw : ∀ token ∈ tokensOf text, ∀ flaw, token.kind ≠ .flaw flaw)
    (layout : Layout (tokensOf text).length) :
    let laidOut := String.ofList (layout.spread (tokensOf text))
    (tokensOf laidOut).map Token.content = (tokensOf text).map Token.content ∧
    ReadAlike (.ofText text) (.ofText laidOut) (Rule.parse text) (Rule.parse laidOut) ∧
    ReadAlike (.ofText text) (.ofText laidOut) (Header.parse text) (Header.parse laidOut) := by
  intro laidOut
  have each : ∀ token ∈ tokensOf text, ∀ rest, SetApart rest →
      Scan.Reads token.lexeme.toList token.kind rest := by
    intro token member rest apart
    have flawless := noFlaw token member
    obtain ⟨c, found, kind, lexeme⟩ := Cursor.exists_scan_of_mem member
    rw [kind] at flawless
    rw [kind, lexeme, String.toList_ofList]
    exact Scan.reads_of_first flawless apart
  have contents : (tokensOf laidOut).map Token.content = (tokensOf text).map Token.content := by
    have spread := Cursor.tokens_spread layout each .start
    rw [tokensOf, Cursor.ofText, String.toList_ofList]
    exact spread
  have kinds : (tokensOf text).map Token.kind = (tokensOf laidOut).map Token.kind := by
    have firsts := congrArg (List.map Prod.fst) contents
    rw [List.map_map, List.map_map] at firsts
    exact firsts.symm
  have noFlawKind : ∀ flaw, .flaw flaw ∉ (tokensOf text).map Token.kind := by
    intro flaw member
    obtain ⟨token, inside, same⟩ := List.mem_map.mp member
    exact noFlaw token inside flaw same
  exact ⟨contents, Rule.reader.readAlike_of_kinds kinds noFlawKind,
    Header.reader.readAlike_of_kinds kinds noFlawKind⟩

/-- Is this no token of the language? -/
def Kind.isFlaw : Kind → Bool
  | flaw _ => true
  | _ => false

/-- A comment between blanks. -/
theorem Trivia.isLayout_remark : IsLayout [' ', '#', '!', '\n', ' '] := by
  have inLine : ∀ c ∈ ['!'], c ≠ '\n' ∧ c ≠ '\r' := by
    intro c member
    rw [List.mem_singleton.mp member]
    decide
  exact .blank rfl (.comment inLine (.blank rfl .nil))

/-- Symbols that touch their neighbours can be spaced out and commented: the rule is the same, and
where a header ends too early is the same token. -/
theorem spaced_out_rule_is_the_same :
    let text := "on created if alpha>=1.5f move(\"a # b\",-2)"
    let spaced := "on #!\n created #!\n if #!\n alpha #!\n >= #!\n 1.5f #!\n move #!\n ( #!\n " ++
      "\"a # b\" #!\n , #!\n -2 #!\n ) #!\n "
    (∀ token ∈ tokensOf text, ∀ flaw, token.kind ≠ .flaw flaw) ∧
    (tokensOf spaced).map Token.content = (tokensOf text).map Token.content ∧
    ReadAlike (.ofText text) (.ofText spaced) (Rule.parse text) (Rule.parse spaced) ∧
    ReadAlike (.ofText text) (.ofText spaced) (Header.parse text) (Header.parse spaced) := by
  intro text spaced
  have flawless : (tokensOf text).all (fun token => !token.kind.isFlaw) = true := by
    decide +kernel
  have noFlaw : ∀ token ∈ tokensOf text, ∀ flaw, token.kind ≠ .flaw flaw := by
    intro token member flaw same
    have here := List.all_eq_true.mp flawless token member
    rw [same] at here
    cases here
  have laidOut : String.ofList
      ((Layout.uniform Trivia.isLayout_remark (by decide) _).spread (tokensOf text)) = spaced := by
    decide +kernel
  rw [← laidOut]
  exact ⟨noFlaw,
    layout_does_not_matter text noFlaw (.uniform Trivia.isLayout_remark (by decide) _)⟩

end ActiveRules
