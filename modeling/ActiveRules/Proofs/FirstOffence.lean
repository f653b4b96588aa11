import ActiveRules.Proofs.Acceptance
import ActiveRules.Proofs.Stream

/-!
# Diagnostics point at the first offence

Every reading can be completed, wherever it came from.  So the tokens that a reader took are the
front of some sentence, and the first token that it refuses is the first one that no sentence
allows there.

## Main definitions

* `Reader.Live`: every reading of a reader can be completed.
* `Reader.StopsAt`: the token of a stream that a reader refuses.
* `Diagnostic.PointsAt`: a diagnostic is about one token of a stream, the first offending one.

## Main statements

* `ConditionReading.exists_completion`: the stack of parentheses can always be closed.
* `Header.reader_live`, `Rule.reader_live`: no reading is a dead end.
* `Reader.pointsAt_of_readFrom`: a live reader fails at the first offending token, and leaves the
  cursor behind it.
-/

namespace ActiveRules

/-! ## No reading is a dead end -/

namespace ConditionReading

/-- Behind an operand the parentheses can be closed one by one. -/
theorem exists_completion_joined (outer : List Pending) (disjunction : Option Condition)
    (conjunction : Condition) :
    ∃ rest later condition,
      follow? next? (.joined outer disjunction conjunction) rest = some later ∧
        later.condition? = some condition := by
  induction outer generalizing disjunction conjunction with
  | nil => exact ⟨[], .joined [] disjunction conjunction, _, rfl, rfl⟩
  | cons pending outer ih =>
    obtain ⟨rest, later, condition, run, ended⟩ := ih pending.disjunction
      (pending.conjoin (Pending.disjoin disjunction conjunction))
    refine ⟨.rightParenthesis :: rest, later, condition, ?_, ended⟩
    rw [follow?_cons_of_next rfl]
    exact run

/-- Every reading of a condition can be completed: one comparison serves as the operand that is
missing, if there is one. -/
theorem exists_completion (reading : ConditionReading) :
    ∃ rest later condition, follow? next? reading rest = some later ∧
      later.condition? = some condition := by
  -- Behind its operand, whichever it is, only the levels around a reading are left to close.
  have close (outer : List Pending) (pending : Pending) (operand : Condition) :=
    exists_completion_joined outer pending.disjunction (pending.conjoin operand)
  cases reading with
  | operand outer pending =>
    obtain ⟨rest, later, condition, run, ended⟩ :=
      close outer pending (.compare "x" .equal (.bool true))
    refine ⟨.identifier "x" :: .comparison .equal :: .bool true :: rest, later, condition, ?_,
      ended⟩
    rw [follow?_cons_of_next rfl, follow?_cons_of_next rfl, follow?_cons_of_next rfl]
    exact run
  | comparison outer pending property =>
    obtain ⟨rest, later, condition, run, ended⟩ :=
      close outer pending (.compare property .equal (.bool true))
    refine ⟨.comparison .equal :: .bool true :: rest, later, condition, ?_, ended⟩
    rw [follow?_cons_of_next rfl, follow?_cons_of_next rfl]
    exact run
  | literal outer pending property comparison =>
    obtain ⟨rest, later, condition, run, ended⟩ :=
      close outer pending (.compare property comparison (.bool true))
    refine ⟨.bool true :: rest, later, condition, ?_, ended⟩
    rw [follow?_cons_of_next rfl]
    exact run
  | joined outer disjunction conjunction =>
    exact exists_completion_joined outer disjunction conjunction

end ConditionReading

namespace HeaderReading

/-- Every reading of a header can be completed. -/
theorem exists_completion (reading : HeaderReading) :
    ∃ rest later header, follow? next? reading rest = some later ∧
      later.header? = some header := by
  cases reading with
  | start => exact ⟨[.keyword .on, .identifier "x"], .named "x", _, rfl, rfl⟩
  | trigger => exact ⟨[.identifier "x"], .named "x", _, rfl, rfl⟩
  | named trigger => exact ⟨[], .named trigger, _, rfl, rfl⟩
  | guarded trigger inner =>
    obtain ⟨rest, later, condition, run, closed⟩ := inner.exists_completion
    refine ⟨rest, .guarded trigger later, ⟨trigger, some condition⟩, ?_, ?_⟩
    · exact follow?_lift (HeaderReading.guarded trigger) (next?_guarded trigger) run
    · rw [header?, closed, Option.map_some]

end HeaderReading

namespace RuleReading

/-- Every reading of a rule can be completed: its action is closed, or its header is and an action
without arguments follows. -/
theorem exists_completion (reading : RuleReading) :
    ∃ rest later rule, follow? next? reading rest = some later ∧ later.rule? = some rule := by
  cases reading with
  | header inner =>
    obtain ⟨rest, later, head, run, closed⟩ := inner.exists_completion
    refine ⟨rest ++ [.identifier "x", .leftParenthesis, .rightParenthesis],
      .actions head [⟨"x", []⟩], _, ?_, rfl⟩
    have opened : next? (.header later) (.identifier "x") = some (.opening head [] "x") := by
      rw [next?, closed]
    rw [follow?_append_of_run (follow?_lift RuleReading.header next?_header run),
      follow?_cons_of_next opened]
    rfl
  | opening head done name =>
    exact ⟨[.leftParenthesis, .rightParenthesis], .actions head (done ++ [⟨name, []⟩]), _, rfl, rfl⟩
  | firstArgument head done name =>
    exact ⟨[.rightParenthesis], .actions head (done ++ [⟨name, []⟩]), _, rfl, rfl⟩
  | argument head done name arguments =>
    exact ⟨[.bool true, .rightParenthesis],
      .actions head (done ++ [⟨name, arguments ++ [.bool true]⟩]), _, rfl, rfl⟩
  | separator head done name arguments =>
    exact ⟨[.rightParenthesis], .actions head (done ++ [⟨name, arguments⟩]), _, rfl, rfl⟩
  | actions head done => exact ⟨[], .actions head done, _, rfl, rfl⟩

end RuleReading

/-- Every reading can be completed. -/
def Reader.Live {R A : Type} (reader : Reader R A) : Prop :=
  ∀ reading, ∃ rest later answer,
    follow? reader.next? reading rest = some later ∧ reader.result? later = some answer

theorem Header.reader_live : Header.reader.Live := HeaderReading.exists_completion

theorem Rule.reader_live : Rule.reader.Live := RuleReading.exists_completion

/-! ## Diagnostics -/

/-- The kinds of the tokens in front of one token of the stream. -/
def Cursor.kindsBefore (cursor : Cursor) (count : Nat) : List Kind :=
  (cursor.tokens.take count).map Token.kind

/-- A diagnostic is about one token of a stream, and that is the first one that no sentence
allows. -/
structure Diagnostic.PointsAt (Sentence : List Kind → Prop) (cursor : Cursor) (count : Nat)
    (diagnostic : Diagnostic) : Prop where
  /-- It is a token ahead, or the end of the text. -/
  inStream : count ≤ cursor.tokens.length
  /-- The diagnostic gives its position. -/
  position : diagnostic.position = (cursor.token count).position
  /-- No other token stands there. -/
  only : ∀ other ≤ cursor.tokens.length,
    diagnostic.position = (cursor.token other).position → other = count
  /-- What stands in front of it is the front of a sentence. -/
  viable : ∃ rest, Sentence (cursor.kindsBefore count ++ rest)
  /-- No sentence goes on with it. -/
  offends : count < cursor.tokens.length →
    ∀ rest, ¬ Sentence (cursor.kindsBefore count ++ (cursor.token count).kind :: rest)
  /-- If it is the end of the text, no sentence ends there. -/
  unfinished : count = cursor.tokens.length → ¬ Sentence (cursor.kindsBefore count)
  /-- The diagnostic is about a flaw exactly if the token is that flaw. -/
  flawed : ∀ flaw, diagnostic = .flawed diagnostic.position flaw ↔
    (cursor.token count).kind = .flaw flaw

namespace Diagnostic

theorem position_ofToken (token : Token) (expected : List Expectation) :
    (ofToken token expected).position = token.position := by
  unfold ofToken
  split <;> rfl

theorem ofToken_eq_flawed_iff {token : Token} {expected : List Expectation} {flaw : Flaw} :
    ofToken token expected = .flawed token.position flaw ↔ token.kind = .flaw flaw := by
  unfold ofToken
  split
  · next found same => rw [same, flawed.injEq, Kind.flaw.injEq, and_iff_right rfl]
  · next noFlaw =>
    constructor
    · rintro ⟨⟩
    · intro same
      exact absurd same (noFlaw flaw)

end Diagnostic

namespace Reader

variable {R A : Type} {reader : Reader R A} {cursor later : Cursor} {diagnostic : Diagnostic}

/-- The front that a live reader has taken is the front of something it accepts. -/
theorem exists_answer_of_run (live : reader.Live) {front : List Kind} {reading : R}
    (run : reader.reading? front = some reading) :
    ∃ rest answer, reader.answer? (front ++ rest) = some answer := by
  obtain ⟨rest, later, answer, completion, ended⟩ := live reading
  refine ⟨rest, answer, ?_⟩
  rw [reader.answer?_append_of_run run, completion, Option.bind_some, ended]

/-- A reader stops at a token of the stream in a reading that refuses it, or at the end of the text
in a reading without a result. -/
structure StopsAt (reader : Reader R A) (cursor : Cursor) (count : Nat) (reading : R) : Prop where
  inStream : count ≤ cursor.tokens.length
  run : reader.reading? (cursor.kindsBefore count) = some reading
  refused : count < cursor.tokens.length →
    reader.next? reading (cursor.token count).kind = none
  unfinished : count = cursor.tokens.length → reader.result? reading = none

/-- A reader that fails has stopped, its diagnostic is about the token that it stopped at, and that
is the last token that it looked at. -/
theorem stopsAt_of_read (failed : (reader.readFrom cursor).1 = .error diagnostic) :
    ∃ count reading, reader.StopsAt cursor count reading ∧
      diagnostic = .ofToken (cursor.token count) (reader.expected reading) ∧
      reader.looked cursor.tokens = count + 1 := by
  obtain ⟨front, back, reading, token, parts, looked, run, rfl, stopped⟩ := of_read_eq_error failed
  have before : cursor.kindsBefore front.length = front.map Token.kind := by
    rw [Cursor.kindsBefore, parts, List.take_left]
  rw [looked]
  refine ⟨front.length, reading, ?_⟩
  -- The diagnostic was made of the token behind the front, or of the end of the text.
  rcases stopped with ⟨others, rfl, refused⟩ | ⟨rfl, rfl, unfinished⟩
  · have inside : front.length < cursor.tokens.length := by
      rw [parts, List.length_append, List.length_cons]
      omega
    have here : cursor.token front.length = token := by
      have found := cursor.getElem?_tokens inside
      rw [parts, List.getElem?_append_right (Nat.le_refl _), Nat.sub_self,
        List.getElem?_cons_zero] at found
      exact (Option.some.inj found).symm
    rw [here]
    refine ⟨⟨Nat.le_of_lt inside, before ▸ run, fun _ => here ▸ refused, ?_⟩, rfl, rfl⟩
    intro atEnd
    exact absurd atEnd (Nat.ne_of_lt inside)
  · have count : front.length = cursor.tokens.length := by rw [parts, List.append_nil]
    have here : cursor.token front.length = cursor.last := by rw [count, Cursor.token_length]
    rw [here]
    refine ⟨⟨Nat.le_of_eq count, before ▸ run, ?_, fun _ => unfinished⟩, rfl, rfl⟩
    intro inside
    exact absurd count (Nat.ne_of_lt inside)

/-- Where a live reader stops is the first offending token. -/
theorem StopsAt.pointsAt (live : reader.Live) {count : Nat} {reading : R}
    (stops : reader.StopsAt cursor count reading) (expected : List Expectation) :
    (Diagnostic.ofToken (cursor.token count) expected).PointsAt
      (fun kinds => ∃ answer, reader.answer? kinds = some answer) cursor count := by
  constructor
  · exact stops.inStream
  · exact Diagnostic.position_ofToken _ _
  · intro other otherInStream same
    rw [Diagnostic.position_ofToken] at same
    exact (Cursor.token_position_injective stops.inStream otherInStream same).symm
  · exact exists_answer_of_run live stops.run
  · rintro inside rest ⟨answer, accepted⟩
    rw [reader.answer?_of_refused stops.run (stops.refused inside)] at accepted
    cases accepted
  · rintro atEnd ⟨answer, accepted⟩
    rw [answer?, stops.run, Option.bind_some, stops.unfinished atEnd] at accepted
    cases accepted
  · intro flaw
    rw [Diagnostic.position_ofToken]
    exact Diagnostic.ofToken_eq_flawed_iff

/-- A live reader fails at the first offending token, and leaves the cursor behind it. -/
theorem pointsAt_of_readFrom (live : reader.Live)
    (failed : reader.readFrom cursor = (.error diagnostic, later)) :
    ∃ count, diagnostic.PointsAt (fun kinds => ∃ answer, reader.answer? kinds = some answer)
      cursor count ∧ later = cursor.advance (count + 1) := by
  have stopped : (reader.readFrom cursor).1 = .error diagnostic := congrArg Prod.fst failed
  have moved : cursor.advance (reader.looked cursor.tokens) = later := congrArg Prod.snd failed
  obtain ⟨count, reading, stops, rfl, looked⟩ := stopsAt_of_read stopped
  refine ⟨count, stops.pointsAt live _, ?_⟩
  rw [← moved, looked]

end Reader

/-- A failed reading is about the first token that no rule, or no header, allows, the end of the
text counted as a token, and the cursor it leaves yields the tokens behind that one. -/
theorem diagnostics_point_at_first_offence :
    (∀ (text : String) (diagnostic : Diagnostic), Rule.parse text = .error diagnostic →
      ∃ count, diagnostic.PointsAt (fun kinds => ∃ rule, Rule.Derives kinds rule)
        (.ofText text) count) ∧
    (∀ (text : String) (diagnostic : Diagnostic), Header.parse text = .error diagnostic →
      ∃ count, diagnostic.PointsAt (fun kinds => ∃ header, Header.Derives kinds header)
        (.ofText text) count) ∧
    ∀ (cursor later : Cursor) (diagnostic : Diagnostic),
      cursor.takeRule = (.error diagnostic, later) →
        ∃ count, diagnostic.PointsAt (fun kinds => ∃ rule, Rule.Derives kinds rule) cursor count ∧
          later = cursor.advance (count + 1) ∧
          ∀ more, later.token more = cursor.token (count + 1 + more) := by
  simp only [Rule.derives_iff, Header.derives_iff]
  refine ⟨?_, ?_, ?_⟩
  · intro text diagnostic failed
    have whole : Rule.reader.readFrom (.ofText text) =
        (.error diagnostic, (Rule.reader.readFrom (.ofText text)).2) := by rw [← failed]; rfl
    obtain ⟨count, pointsAt, -⟩ := Reader.pointsAt_of_readFrom Rule.reader_live whole
    exact ⟨count, pointsAt⟩
  · intro text diagnostic failed
    have whole : Header.reader.readFrom (.ofText text) =
        (.error diagnostic, (Header.reader.readFrom (.ofText text)).2) := by rw [← failed]; rfl
    obtain ⟨count, pointsAt, -⟩ := Reader.pointsAt_of_readFrom Header.reader_live whole
    exact ⟨count, pointsAt⟩
  · intro cursor later diagnostic failed
    obtain ⟨count, pointsAt, rfl⟩ := Reader.pointsAt_of_readFrom Rule.reader_live failed
    refine ⟨count, pointsAt, rfl, ?_⟩
    intro more
    exact cursor.token_advance (count + 1) more

/-- Where the comparison of an inner operand is missing, the name of the next action is the first
offence, for rules and for headers. -/
theorem missing_comparison_is_first_offence :
    let text := "on created if not (alpha > 1.5 and shown maximize()"
    let cursor := Cursor.ofText text
    let place : Position := ⟨41, 1, 42⟩
    (∃ diagnostic count, Rule.parse text = .error diagnostic ∧ diagnostic.position = place ∧
      diagnostic.PointsAt (fun kinds => ∃ rule, Rule.Derives kinds rule) cursor count) ∧
    (∃ diagnostic count, Header.parse text = .error diagnostic ∧ diagnostic.position = place ∧
      diagnostic.PointsAt (fun kinds => ∃ header, Header.Derives kinds header) cursor count) ∧
    ∃ diagnostic later count, cursor.takeRule = (.error diagnostic, later) ∧
      diagnostic.PointsAt (fun kinds => ∃ rule, Rule.Derives kinds rule) cursor count ∧
      later.token 0 = cursor.token (count + 1) := by
  intro text cursor place
  have ruleRun : (match Rule.parse text with
    | .error diagnostic => decide (diagnostic.position = place)
    | .ok _ => false) = true := by decide +kernel
  have headerRun : (match Header.parse text with
    | .error diagnostic => decide (diagnostic.position = place)
    | .ok _ => false) = true := by decide +kernel
  refine ⟨?_, ?_, ?_⟩
  · cases failed : Rule.parse text with
    | ok rule => rw [failed] at ruleRun; cases ruleRun
    | error diagnostic =>
      rw [failed] at ruleRun
      obtain ⟨count, pointsAt⟩ := diagnostics_point_at_first_offence.1 text diagnostic failed
      exact ⟨diagnostic, count, rfl, of_decide_eq_true ruleRun, pointsAt⟩
  · cases failed : Header.parse text with
    | ok header => rw [failed] at headerRun; cases headerRun
    | error diagnostic =>
      rw [failed] at headerRun
      obtain ⟨count, pointsAt⟩ := diagnostics_point_at_first_offence.2.1 text diagnostic failed
      exact ⟨diagnostic, count, rfl, of_decide_eq_true headerRun, pointsAt⟩
  · cases failed : cursor.takeRule with
    | mk outcome later =>
      have same : Rule.parse text = outcome := congrArg Prod.fst failed
      cases outcome with
      | ok rule => rw [same] at ruleRun; cases ruleRun
      | error diagnostic =>
        obtain ⟨count, pointsAt, -, behind⟩ :=
          diagnostics_point_at_first_offence.2.2 cursor later diagnostic failed
        exact ⟨diagnostic, later, count, rfl, pointsAt, behind 0⟩

end ActiveRules
