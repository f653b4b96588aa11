import ActiveRules.Proofs.FirstOffence

/-!
# Diagnostics name what can follow

A diagnostic lists classes of tokens.  Each of them is the class of a token with which some sentence
goes on, and no class with that property is left out.  There is one exception: behind the comma
between two arguments the closing parenthesis is listed, although an argument has to follow.

## Main definitions

* `TokenClass`, `Kind.class?`: the classes of tokens that a diagnostic tells apart.
* `Expectation.named`: the classes that a list of expectations stands for.
* `Expectation.Exact`: a list names the classes of all tokens that can follow a front of kinds, and
  no others.

## Main statements

* `ConditionReading.isSome_next?`, `HeaderReading.isSome_next?`: a reading is extended exactly by
  the tokens whose class it names.
* `Reader.exact_of_run`: what extends a reading of a live reader is what can follow.
* `diagnostics_name_what_can_follow`: which diagnostics are exact, and what the others list.
-/

namespace ActiveRules

/-! ## Classes of tokens -/

/-- The classes of tokens that a diagnostic tells apart.  The end of the text is one of its own. -/
inductive TokenClass where
  | keyword (keyword : Keyword)
  | identifier
  | comparison
  | literal
  | leftParenthesis
  | rightParenthesis
  | comma
  | finish
deriving DecidableEq

/-- The class of a token.  A flawed token is in none. -/
def Kind.class? : Kind → Option TokenClass
  | identifier _ => some .identifier
  | keyword k => some (.keyword k)
  | string _ => some .literal
  | int _ => some .literal
  | single _ => some .literal
  | double _ => some .literal
  | bool _ => some .literal
  | comparison _ => some .comparison
  | leftParenthesis => some .leftParenthesis
  | rightParenthesis => some .rightParenthesis
  | comma => some .comma
  | flaw _ => none
  | finish => some .finish

/-- No class is empty. -/
theorem TokenClass.exists_kind (tokenClass : TokenClass) :
    ∃ kind : Kind, kind.class? = some tokenClass := by
  cases tokenClass with
  | keyword k => exact ⟨.keyword k, rfl⟩
  | identifier => exact ⟨.identifier "x", rfl⟩
  | comparison => exact ⟨.comparison .equal, rfl⟩
  | literal => exact ⟨.bool true, rfl⟩
  | leftParenthesis => exact ⟨.leftParenthesis, rfl⟩
  | rightParenthesis => exact ⟨.rightParenthesis, rfl⟩
  | comma => exact ⟨.comma, rfl⟩
  | finish => exact ⟨.finish, rfl⟩

namespace Expectation

/-- The classes that an expectation stands for.  Triggers, properties and actions are all named by
identifiers, and where an argument may stand an identifier counts as a literal. -/
def classes : Expectation → List TokenClass
  | keyword k => [.keyword k]
  | triggerName => [.identifier]
  | property => [.identifier]
  | action => [.identifier]
  | comparison => [.comparison]
  | literal => [.literal]
  | argument => [.literal, .identifier]
  | leftParenthesis => [.leftParenthesis]
  | rightParenthesis => [.rightParenthesis]
  | comma => [.comma]
  | finish => [.finish]

/-- The classes that a list of expectations stands for. -/
def named (expected : List Expectation) : List TokenClass := expected.flatMap classes

/-- Is the class of a token among those that a list of expectations stands for? -/
def admits (expected : List Expectation) (kind : Kind) : Bool :=
  kind.class?.any fun tokenClass => (named expected).contains tokenClass

theorem admits_iff {expected : List Expectation} {kind : Kind} {tokenClass : TokenClass}
    (member : kind.class? = some tokenClass) :
    admits expected kind = true ↔ tokenClass ∈ named expected := by
  rw [admits, member, Option.any_some, List.contains_iff_mem]

theorem admits_append (expected more : List Expectation) (kind : Kind) :
    admits (expected ++ more) kind = (admits expected kind || admits more kind) := by
  unfold admits
  cases kind.class? with
  | none => rfl
  | some tokenClass =>
    rw [named, List.flatMap_append]
    exact List.contains_append

end Expectation

/-! ## What can follow -/

/-- Behind a front of kinds some sentence goes on with this token, or ends if the token is the end
of the text. -/
def CanFollow (Sentence : List Kind → Prop) (front : List Kind) : Kind → Prop
  | .finish => Sentence front
  | kind => ∃ rest, Sentence (front ++ kind :: rest)

/-- A list of expectations names the classes of all tokens that can follow a front of kinds, and no
others. -/
structure Expectation.Exact (Sentence : List Kind → Prop) (front : List Kind)
    (expected : List Expectation) : Prop where
  /-- A class is named exactly if some token of it can follow. -/
  named_iff : ∀ tokenClass, tokenClass ∈ named expected ↔
    ∃ kind : Kind, kind.class? = some tokenClass ∧ CanFollow Sentence front kind
  /-- Of a class that is named every token can follow. -/
  every : ∀ tokenClass ∈ named expected, ∀ kind : Kind,
    kind.class? = some tokenClass → CanFollow Sentence front kind

/-- Exact lists name the same classes. -/
theorem Expectation.Exact.named_congr {Sentence : List Kind → Prop} {front : List Kind}
    {expected others : List Expectation} (exact : Exact Sentence front expected)
    (otherExact : Exact Sentence front others) (tokenClass : TokenClass) :
    tokenClass ∈ named expected ↔ tokenClass ∈ named others :=
  (exact.named_iff tokenClass).trans (otherExact.named_iff tokenClass).symm

namespace Reader

variable {R A : Type} {reader : Reader R A} {reading : R} {front : List Kind}

/-- Does a token extend a reading, or end it if the token is the end of the text? -/
def goesOn (reader : Reader R A) (reading : R) : Kind → Bool
  | .finish => (reader.result? reading).isSome
  | kind => (reader.next? reading kind).isSome

/-- With a token that extends a reading of a live reader some sentence goes on, and with no
other. -/
theorem canFollow_iff (live : reader.Live) (run : reader.reading? front = some reading)
    (kind : Kind) :
    CanFollow (fun kinds => ∃ answer, reader.answer? kinds = some answer) front kind ↔
      reader.goesOn reading kind = true := by
  have extends_iff : (∃ rest answer, reader.answer? (front ++ kind :: rest) = some answer) ↔
      (reader.next? reading kind).isSome = true := by
    cases step : reader.next? reading kind with
    | none => simp [reader.answer?_of_refused run step]
    | some later =>
      have further : reader.reading? (front ++ [kind]) = some later := by
        rw [reading?, follow?_append_of_run run, follow?_cons_of_next step, follow?_nil]
      obtain ⟨rest, answer, accepted⟩ := exists_answer_of_run live further
      rw [List.append_assoc, List.singleton_append] at accepted
      exact ⟨fun _ => rfl, fun _ => ⟨rest, answer, accepted⟩⟩
  cases kind with
  | finish =>
    show (∃ answer, reader.answer? front = some answer) ↔ (reader.result? reading).isSome = true
    rw [answer?, run, Option.bind_some, Option.isSome_iff_exists]
  | _ => exact extends_iff

/-- What extends a reading of a live reader is what can follow. -/
theorem exact_of_run (live : reader.Live) (run : reader.reading? front = some reading)
    {expected : List Expectation}
    (complete : ∀ kind, reader.goesOn reading kind = Expectation.admits expected kind) :
    Expectation.Exact (fun kinds => ∃ answer, reader.answer? kinds = some answer) front
      expected := by
  have follows {kind : Kind} {tokenClass : TokenClass} (member : kind.class? = some tokenClass) :
      CanFollow (fun kinds => ∃ answer, reader.answer? kinds = some answer) front kind ↔
        tokenClass ∈ Expectation.named expected := by
    rw [canFollow_iff live run, complete, Expectation.admits_iff member]
  constructor
  · intro tokenClass
    constructor
    · intro isNamed
      obtain ⟨kind, member⟩ := tokenClass.exists_kind
      exact ⟨kind, member, (follows member).mpr isNamed⟩
    · rintro ⟨kind, member, possible⟩
      exact (follows member).mp possible
  · intro tokenClass isNamed kind member
    exact (follows member).mpr isNamed

end Reader

/-! ## What extends a reading -/

/-- A condition is extended exactly by the tokens whose class is named. -/
theorem ConditionReading.isSome_next? (reading : ConditionReading) (kind : Kind) :
    (reading.next? kind).isSome = Expectation.admits reading.expected kind := by
  cases reading with
  | operand =>
    cases kind with
    | keyword k => cases k <;> rfl
    | _ => rfl
  | comparison => cases kind <;> rfl
  | literal => cases kind <;> rfl
  | joined outer =>
    cases outer with
    | nil =>
      cases kind with
      | keyword k => cases k <;> rfl
      | _ => rfl
    | cons =>
      cases kind with
      | keyword k => cases k <;> rfl
      | _ => rfl

/-- A header is extended exactly by the tokens whose class is named. -/
theorem HeaderReading.isSome_next? (reading : HeaderReading) (kind : Kind) :
    (reading.next? kind).isSome = Expectation.admits reading.expected kind := by
  cases reading with
  | start =>
    cases kind with
    | keyword k => cases k <;> rfl
    | _ => rfl
  | trigger => cases kind <;> rfl
  | named =>
    cases kind with
    | keyword k => cases k <;> rfl
    | _ => rfl
  | guarded trigger inner =>
    show ((inner.next? kind).map (HeaderReading.guarded trigger)).isSome = _
    rw [Option.isSome_map]
    exact inner.isSome_next? kind

/-- Neither a comma nor the end of the text is part of a condition. -/
theorem ConditionReading.next?_of_foreign (reading : ConditionReading) {kind : Kind}
    (foreign : kind = .comma ∨ kind = .finish) : reading.next? kind = none := by
  rcases foreign with rfl | rfl
  · cases reading with
    | joined outer => cases outer <;> rfl
    | _ => rfl
  · cases reading with
    | joined outer => cases outer <;> rfl
    | _ => rfl

/-- Neither a comma nor the end of the text is part of a header. -/
theorem HeaderReading.next?_of_foreign (reading : HeaderReading) {kind : Kind}
    (foreign : kind = .comma ∨ kind = .finish) : reading.next? kind = none := by
  cases reading with
  | guarded trigger inner =>
    show (inner.next? kind).map (HeaderReading.guarded trigger) = none
    rw [inner.next?_of_foreign foreign, Option.map_none]
  | _ => rcases foreign with rfl | rfl <;> rfl

/-- The reader of headers names exactly what extends or ends its reading. -/
theorem Header.goesOn_reader (reading : HeaderReading) (kind : Kind) :
    Header.reader.goesOn reading kind =
      Expectation.admits (Header.reader.expected reading) kind := by
  have extended := reading.isSome_next? kind
  cases ended : reading.header? with
  | none =>
    have listed : Header.reader.expected reading = reading.expected := by
      simp [Header.reader, ended]
    rw [listed, ← extended]
    cases kind with
    | finish =>
      rw [reading.next?_of_foreign (.inr rfl)]
      show reading.header?.isSome = _
      rw [ended]
      rfl
    | _ => rfl
  | some header =>
    have listed : Header.reader.expected reading = reading.expected ++ [.finish] := by
      simp [Header.reader, ended]
    rw [listed, Expectation.admits_append, ← extended]
    cases kind with
    | finish =>
      rw [reading.next?_of_foreign (.inr rfl)]
      show reading.header?.isSome = _
      rw [ended]
      rfl
    | _ => exact (Bool.or_false _).symm

namespace RuleReading

/-- The classes of tokens that extend or end a reading.  They differ from the named ones behind a
comma only. -/
def possible : RuleReading → List Expectation
  | argument _ _ _ _ => [.argument]
  | reading => reading.expected

/-- Behind a comma an argument is awaited. -/
def awaitsArgument : RuleReading → Bool
  | argument _ _ _ _ => true
  | _ => false

theorem expected_of_awaitsArgument {reading : RuleReading}
    (awaits : reading.awaitsArgument = true) :
    reading.expected = [.argument, .rightParenthesis] ∧ reading.possible = [.argument] := by
  cases reading with
  | argument => exact ⟨rfl, rfl⟩
  | _ => cases awaits

theorem possible_of_not_awaitsArgument {reading : RuleReading}
    (awaits : reading.awaitsArgument = false) : reading.possible = reading.expected := by
  cases reading with
  | argument => cases awaits
  | _ => rfl

/-- A header, or the first action behind it, is extended exactly by the tokens whose class is
named. -/
theorem isSome_next?_header (reading : HeaderReading) (kind : Kind) :
    (next? (.header reading) kind).isSome =
      Expectation.admits (RuleReading.header reading).expected kind := by
  have extended := reading.isSome_next? kind
  cases ended : reading.header? with
  | none =>
    have listed : (RuleReading.header reading).expected = reading.expected := by
      simp [expected, ended]
    rw [listed, ← extended]
    cases kind with
    | identifier name => rw [next?, ended, Option.isSome_map]
    | _ => rw [next?, Option.isSome_map]; simp
  | some head =>
    have listed : (RuleReading.header reading).expected = [.action] ++ reading.expected := by
      simp [expected, ended]
    rw [listed, Expectation.admits_append, ← extended]
    cases kind with
    | identifier name => rw [next?, ended]; rfl
    | _ => rw [next?, Option.isSome_map]; rfl; simp

/-- The possible classes are those of the tokens that extend or end the reading. -/
theorem goesOn_possible (reading : RuleReading) (kind : Kind) :
    Rule.reader.goesOn reading kind = Expectation.admits reading.possible kind := by
  cases reading with
  | header inner =>
    show _ = Expectation.admits (RuleReading.header inner).expected kind
    rw [← isSome_next?_header]
    cases kind with
    | finish => rw [next?, inner.next?_of_foreign (.inr rfl)]; rfl; simp
    | _ => rfl
  | opening => cases kind <;> rfl
  | firstArgument => cases kind <;> rfl
  | argument => cases kind <;> rfl
  | separator => cases kind <;> rfl
  | actions => cases kind <;> rfl

/-- A comma is exactly what leads to a reading that awaits an argument. -/
theorem eq_comma_iff {reading later : RuleReading} {kind : Kind}
    (step : reading.next? kind = some later) : kind = .comma ↔ later.awaitsArgument = true := by
  cases reading with
  | header inner =>
    obtain ⟨name, head, rfl, -, rfl⟩ | ⟨extended, found, rfl⟩ := next?_header_cases step
    · exact ⟨nofun, nofun⟩
    · refine ⟨?_, nofun⟩
      rintro rfl
      rw [inner.next?_of_foreign (.inl rfl)] at found
      cases found
  | opening =>
    cases kind with
    | leftParenthesis => cases step; exact ⟨nofun, nofun⟩
    | _ => cases step
  | firstArgument =>
    obtain ⟨rfl, rfl⟩ | ⟨value, argument, rfl⟩ := next?_firstArgument_cases step
    · exact ⟨nofun, nofun⟩
    · refine ⟨?_, nofun⟩
      rintro rfl
      cases Kind.isArgument_iff.mp argument
  | argument =>
    obtain ⟨value, found, rfl⟩ := Option.map_eq_some_iff.mp step
    refine ⟨?_, nofun⟩
    rintro rfl
    cases found
  | separator =>
    cases kind with
    | comma => cases step; exact ⟨fun _ => rfl, fun _ => rfl⟩
    | rightParenthesis => cases step; exact ⟨nofun, nofun⟩
    | _ => cases step
  | actions =>
    cases kind with
    | identifier name => cases step; exact ⟨nofun, nofun⟩
    | _ => cases step

/-- A reading awaits an argument exactly if what led to it ends in a comma. -/
theorem getLast?_eq_comma_iff {reading : RuleReading} {front : List Kind}
    (run : Rule.reader.reading? front = some reading) :
    front.getLast? = some .comma ↔ reading.awaitsArgument = true := by
  -- Only the last step matters.
  rcases List.eq_nil_or_concat front with rfl | ⟨earlier, kind, rfl⟩
  · cases run
    exact ⟨nofun, nofun⟩
  · rw [List.concat_eq_append] at run ⊢
    rw [Reader.reading?, follow?_append] at run
    obtain ⟨before, -, last⟩ := Option.bind_eq_some_iff.mp run
    obtain ⟨after, step, same⟩ := Option.bind_eq_some_iff.mp last
    cases same
    rw [List.getLast?_concat, Option.some.injEq]
    exact eq_comma_iff step

end RuleReading

/-! ## Diagnostics -/

theorem Diagnostic.of_ofToken_eq_unexpected {token : Token} {expected : List Expectation}
    {position : Position} {found : Kind} {listed : List Expectation}
    (same : ofToken token expected = .unexpected position found listed) :
    token.kind = found ∧ expected = listed := by
  unfold ofToken at same
  split at same
  · cases same
  · cases same
    exact ⟨rfl, rfl⟩

/-- The token that a reader stops at neither extends nor ends its reading. -/
theorem Reader.StopsAt.goesOn_eq_false {R A : Type} {reader : Reader R A} {cursor : Cursor}
    {count : Nat} {reading : R} (stops : reader.StopsAt cursor count reading) :
    reader.goesOn reading (cursor.token count).kind = false := by
  rcases Nat.lt_or_eq_of_le stops.inStream with inside | atEnd
  · have refused := stops.refused inside
    have unfinished := Cursor.token_kind_ne_finish inside
    unfold goesOn
    split
    · next same => exact absurd same unfinished
    · rw [refused]
      rfl
  · rw [atEnd, Cursor.token_length]
    show (reader.result? reading).isSome = false
    rw [stops.unfinished atEnd]
    rfl

/-- The class of the token that a reader stops at is not among those that extend or end its
reading. -/
theorem Reader.StopsAt.class?_not_mem {R A : Type} {reader : Reader R A} {cursor : Cursor}
    {count : Nat} {reading : R} (stops : reader.StopsAt cursor count reading)
    {expected : List Expectation}
    (complete : ∀ kind, reader.goesOn reading kind = Expectation.admits expected kind) :
    ∀ tokenClass, (cursor.token count).kind.class? = some tokenClass →
      tokenClass ∉ Expectation.named expected := by
  intro tokenClass member
  rw [← Expectation.admits_iff member, ← complete, stops.goesOn_eq_false]
  exact Bool.false_ne_true

/-- A diagnostic of an unexpected token names the classes of all tokens that can stand there and no
others, so that of the token found is never named.  Only behind a comma is one class too many
listed: an argument has to follow, and the closing parenthesis is listed as well. -/
theorem diagnostics_name_what_can_follow (text : String) (position : Position) (found : Kind)
    (expected : List Expectation) :
    (Rule.parse text = .error (.unexpected position found expected) →
      ∃ count, (Diagnostic.unexpected position found expected).PointsAt
          (fun kinds => ∃ rule, Rule.Derives kinds rule) (.ofText text) count ∧
        found = ((Cursor.ofText text).token count).kind ∧
        let front := (Cursor.ofText text).kindsBefore count
        (Expectation.Exact (fun kinds => ∃ rule, Rule.Derives kinds rule) front expected ↔
          front.getLast? ≠ some .comma) ∧
        (front.getLast? ≠ some .comma → ∀ tokenClass, found.class? = some tokenClass →
          tokenClass ∉ Expectation.named expected) ∧
        (front.getLast? = some .comma →
          expected = [.argument, .rightParenthesis] ∧
          Expectation.Exact (fun kinds => ∃ rule, Rule.Derives kinds rule) front [.argument] ∧
          ∀ tokenClass, found.class? = some tokenClass →
            tokenClass ∉ Expectation.named [.argument])) ∧
    (Header.parse text = .error (.unexpected position found expected) →
      ∃ count, (Diagnostic.unexpected position found expected).PointsAt
          (fun kinds => ∃ header, Header.Derives kinds header) (.ofText text) count ∧
        found = ((Cursor.ofText text).token count).kind ∧
        Expectation.Exact (fun kinds => ∃ header, Header.Derives kinds header)
          ((Cursor.ofText text).kindsBefore count) expected ∧
        ∀ tokenClass, found.class? = some tokenClass →
          tokenClass ∉ Expectation.named expected) := by
  simp only [Rule.derives_iff, Header.derives_iff]
  constructor
  · intro failed
    obtain ⟨count, reading, stops, made, -⟩ := Reader.stopsAt_of_read failed
    have pointsAt := stops.pointsAt Rule.reader_live (Rule.reader.expected reading)
    obtain ⟨rfl, rfl⟩ := Diagnostic.of_ofToken_eq_unexpected made.symm
    rw [← made] at pointsAt
    have behindComma := RuleReading.getLast?_eq_comma_iff stops.run
    have exact := Reader.exact_of_run Rule.reader_live stops.run reading.goesOn_possible
    have unnamed := stops.class?_not_mem reading.goesOn_possible
    have complete (noComma : ((Cursor.ofText text).kindsBefore count).getLast? ≠ some .comma) :=
      RuleReading.possible_of_not_awaitsArgument
        (Bool.eq_false_iff.mpr (mt behindComma.mpr noComma))
    refine ⟨count, pointsAt, rfl, ⟨?_, ?_⟩, ?_, ?_⟩
    · -- Were the list behind a comma exact, a closing parenthesis would be an argument.
      intro exactThere comma
      obtain ⟨listed, possible⟩ := RuleReading.expected_of_awaitsArgument (behindComma.mp comma)
      have same := exactThere.named_congr exact .rightParenthesis
      rw [possible] at same
      rw [show Rule.reader.expected reading = _ from listed] at same
      revert same
      decide
    · intro noComma
      rw [complete noComma] at exact
      exact exact
    · intro noComma
      rw [complete noComma] at unnamed
      exact unnamed
    · intro comma
      obtain ⟨listed, possible⟩ := RuleReading.expected_of_awaitsArgument (behindComma.mp comma)
      rw [possible] at exact unnamed
      exact ⟨listed, exact, unnamed⟩
  · intro failed
    obtain ⟨count, reading, stops, made, -⟩ := Reader.stopsAt_of_read failed
    have pointsAt := stops.pointsAt Header.reader_live (Header.reader.expected reading)
    obtain ⟨rfl, rfl⟩ := Diagnostic.of_ofToken_eq_unexpected made.symm
    rw [← made] at pointsAt
    have complete := Header.goesOn_reader reading
    have exact := Reader.exact_of_run Header.reader_live stops.run complete
    exact ⟨count, pointsAt, rfl, exact, stops.class?_not_mem complete⟩

/-- The place, the class of the token found and the list of a diagnostic of an unexpected token. -/
def Diagnostic.outline? {A : Type} :
    Except Diagnostic A → Option (Position × Option TokenClass × List Expectation)
  | .error (.unexpected position found expected) => some (position, found.class?, expected)
  | _ => none

theorem Diagnostic.exists_of_outline? {A : Type} {outcome : Except Diagnostic A}
    {position : Position} {tokenClass : Option TokenClass} {expected : List Expectation}
    (outlined : outline? outcome = some (position, tokenClass, expected)) :
    ∃ found, outcome = .error (.unexpected position found expected) ∧
      found.class? = tokenClass := by
  unfold outline? at outlined
  split at outlined
  · next position found expected =>
    cases outlined
    exact ⟨found, rfl, rfl⟩
  · cases outlined

/-- Where a parenthesis is still open, it can be closed or a connective can follow, for rules and
for headers; behind the comma between two arguments only an argument can follow. -/
theorem unclosed_texts_name_what_can_follow :
    let unclosed := "on created if not (alpha > 1.5 maximize()"
    let broken := "on created move(1, on"
    let closing : List Expectation := [.rightParenthesis, .keyword .and, .keyword .or]
    (∃ found, Rule.parse unclosed = .error (.unexpected ⟨31, 1, 32⟩ found closing) ∧
      Expectation.Exact (fun kinds => ∃ rule, Rule.Derives kinds rule)
        ((Cursor.ofText unclosed).kindsBefore 8) closing) ∧
    (∃ found, Header.parse unclosed = .error (.unexpected ⟨31, 1, 32⟩ found closing) ∧
      Expectation.Exact (fun kinds => ∃ header, Header.Derives kinds header)
        ((Cursor.ofText unclosed).kindsBefore 8) closing) ∧
    ∃ found, Rule.parse broken =
        .error (.unexpected ⟨19, 1, 20⟩ found [.argument, .rightParenthesis]) ∧
      Expectation.Exact (fun kinds => ∃ rule, Rule.Derives kinds rule)
        ((Cursor.ofText broken).kindsBefore 6) [.argument] := by
  intro unclosed broken closing
  have atName : 8 ≤ (Cursor.ofText unclosed).tokens.length ∧
      ((Cursor.ofText unclosed).token 8).position = ⟨31, 1, 32⟩ ∧
      (Rule.reader.reading? ((Cursor.ofText unclosed).kindsBefore 8)).map
        RuleReading.awaitsArgument = some false := by decide +kernel
  have atKeyword : 6 ≤ (Cursor.ofText broken).tokens.length ∧
      ((Cursor.ofText broken).token 6).position = ⟨19, 1, 20⟩ ∧
      (Rule.reader.reading? ((Cursor.ofText broken).kindsBefore 6)).map
        RuleReading.awaitsArgument = some true := by decide +kernel
  refine ⟨?_, ?_, ?_⟩
  · obtain ⟨found, failed, -⟩ := Diagnostic.exists_of_outline?
      (show Diagnostic.outline? (Rule.parse unclosed) =
        some (⟨31, 1, 32⟩, some .identifier, closing) by decide +kernel)
    obtain ⟨count, pointsAt, -, exact, -⟩ :=
      (diagnostics_name_what_can_follow unclosed _ found closing).1 failed
    obtain rfl := pointsAt.only 8 atName.1 atName.2.1.symm
    obtain ⟨reading, reached, awaits⟩ := Option.map_eq_some_iff.mp atName.2.2
    refine ⟨found, failed, exact.mpr ?_⟩
    intro comma
    have awaiting := (RuleReading.getLast?_eq_comma_iff reached).mp comma
    rw [awaits] at awaiting
    cases awaiting
  · obtain ⟨found, failed, -⟩ := Diagnostic.exists_of_outline?
      (show Diagnostic.outline? (Header.parse unclosed) =
        some (⟨31, 1, 32⟩, some .identifier, closing) by decide +kernel)
    obtain ⟨count, pointsAt, -, exact, -⟩ :=
      (diagnostics_name_what_can_follow unclosed _ found closing).2 failed
    obtain rfl := pointsAt.only 8 atName.1 atName.2.1.symm
    exact ⟨found, failed, exact⟩
  · obtain ⟨found, failed, -⟩ := Diagnostic.exists_of_outline?
      (show Diagnostic.outline? (Rule.parse broken) =
        some (⟨19, 1, 20⟩, some (.keyword .on), [.argument, .rightParenthesis]) by
        decide +kernel)
    obtain ⟨count, pointsAt, -, -, -, exact⟩ :=
      (diagnostics_name_what_can_follow broken _ found _).1 failed
    obtain rfl := pointsAt.only 6 atKeyword.1 atKeyword.2.1.symm
    obtain ⟨reading, reached, awaits⟩ := Option.map_eq_some_iff.mp atKeyword.2.2
    have comma := (RuleReading.getLast?_eq_comma_iff reached).mpr awaits
    exact ⟨found, failed, (exact comma).2.1⟩

/-- Behind a comma the diagnostic of a closing parenthesis lists the closing parenthesis, with which
no rule goes on there. -/
theorem closing_parenthesis_is_listed_behind_comma :
    let text := "on created move(1,)"
    let expected : List Expectation := [.argument, .rightParenthesis]
    (∃ found, Rule.parse text = .error (.unexpected ⟨18, 1, 19⟩ found expected) ∧
        found.class? = some .rightParenthesis) ∧
      ((Cursor.ofText text).token 6).position = ⟨18, 1, 19⟩ ∧
      TokenClass.rightParenthesis ∈ Expectation.named expected ∧
      ∀ kind : Kind, kind.class? = some .rightParenthesis →
        ¬ CanFollow (fun kinds => ∃ rule, Rule.Derives kinds rule)
          ((Cursor.ofText text).kindsBefore 6) kind := by
  intro text expected
  have run : (Rule.reader.reading? ((Cursor.ofText text).kindsBefore 6)).map
      RuleReading.possible = some [.argument] := by decide +kernel
  obtain ⟨reading, reached, possible⟩ := Option.map_eq_some_iff.mp run
  have failed := Diagnostic.exists_of_outline?
    (show Diagnostic.outline? (Rule.parse text) =
      some (⟨18, 1, 19⟩, some .rightParenthesis, expected) by decide +kernel)
  refine ⟨failed, by decide +kernel, by decide, ?_⟩
  intro kind member follows
  simp only [Rule.derives_iff] at follows
  rw [Reader.canFollow_iff Rule.reader_live reached, RuleReading.goesOn_possible, possible,
    Expectation.admits_iff member] at follows
  revert follows
  decide

end ActiveRules
