import ActiveRules.Proofs.Spans
import ActiveRules.Reading.Text

/-!
# The readers accept the grammar

That sentences are taken and that readings span what was read are the two directions of one
agreement: a reader answers with a tree exactly if the kinds are derived as that tree.  A reader is
a function, so the grammar is unambiguous.

## Main statements

* `Header.derives_iff`, `Rule.derives_iff`: the reader answers exactly with what is derived.
* `Rule.derives_unique`: a sequence of kinds stands for one rule at most.
* `Rule.parse_eq_ok_iff`, `Header.parse_eq_ok_iff`: what a text is read as, by the kinds of its
  tokens.
* `parse_accepts_exactly_the_grammar`: parsing succeeds exactly on the sentences of the grammar.
-/

namespace ActiveRules

/-! ## The readers and the grammar agree -/

/-- The reader of headers answers exactly with what is derived. -/
theorem Header.derives_iff {kinds : List Kind} {header : Header} :
    Header.Derives kinds header ↔ Header.reader.answer? kinds = some header := by
  constructor
  · intro derivation
    obtain ⟨reading, run, ended⟩ := HeaderReading.run_of_derives derivation
    exact Option.bind_eq_some_iff.mpr ⟨reading, run, ended⟩
  · intro answered
    obtain ⟨reading, run, ended⟩ := Option.bind_eq_some_iff.mp answered
    have spans : reading.Spans kinds :=
      follow?_invariant HeaderReading.Spans.next HeaderReading.Spans.start run
    exact spans.derives ended

/-- The reader of rules answers exactly with what is derived. -/
theorem Rule.derives_iff {kinds : List Kind} {rule : Rule} :
    Rule.Derives kinds rule ↔ Rule.reader.answer? kinds = some rule := by
  constructor
  · intro derivation
    exact Option.bind_eq_some_iff.mpr ⟨_, RuleReading.run_of_derives derivation, rfl⟩
  · intro answered
    obtain ⟨reading, run, ended⟩ := Option.bind_eq_some_iff.mp answered
    have spans : reading.Spans kinds :=
      follow?_invariant RuleReading.Spans.next (RuleReading.Spans.header .start) run
    exact spans.derives ended

/-- A sequence of kinds stands for one rule at most. -/
theorem Rule.derives_unique {kinds : List Kind} {rule other : Rule}
    (derivation : Rule.Derives kinds rule) (another : Rule.Derives kinds other) :
    rule = other := by
  rw [Rule.derives_iff] at derivation another
  exact Option.some.inj (derivation.symm.trans another)

/-! ## No flaw is ever read -/

theorem ConditionReading.next?_flaw (reading : ConditionReading) (flaw : Flaw) :
    reading.next? (.flaw flaw) = none := by
  cases reading with
  | joined outer => cases outer <;> rfl
  | _ => rfl

theorem HeaderReading.next?_flaw (reading : HeaderReading) (flaw : Flaw) :
    reading.next? (.flaw flaw) = none := by
  cases reading with
  | guarded trigger inner =>
    show (inner.next? (.flaw flaw)).map (HeaderReading.guarded trigger) = none
    rw [inner.next?_flaw, Option.map_none]
  | _ => rfl

theorem RuleReading.next?_flaw (reading : RuleReading) (flaw : Flaw) :
    reading.next? (.flaw flaw) = none := by
  cases reading with
  | header inner => rw [next?, inner.next?_flaw, Option.map_none]; simp
  | _ => rfl

theorem Header.Derives.no_flaw {kinds : List Kind} {header : Header}
    (derivation : Header.Derives kinds header) (flaw : Flaw) : .flaw flaw ∉ kinds :=
  Header.reader.not_mem_of_answer? (fun reading => reading.next?_flaw flaw)
    (Header.derives_iff.mp derivation)

theorem Rule.Derives.no_flaw {kinds : List Kind} {rule : Rule}
    (derivation : Rule.Derives kinds rule) (flaw : Flaw) : .flaw flaw ∉ kinds :=
  Rule.reader.not_mem_of_answer? (fun reading => reading.next?_flaw flaw)
    (Rule.derives_iff.mp derivation)

/-! ## Parsing -/

/-- A text is a rule if the kinds of its tokens are derived as one. -/
theorem Rule.parse_eq_ok_iff {text : String} {rule : Rule} :
    Rule.parse text = .ok rule ↔ Rule.Derives (kindsAhead text.toList) rule := by
  rw [Rule.derives_iff]
  show Rule.reader.read (tokensOf text) (Cursor.ofText text).last = .ok rule ↔ _
  rw [Reader.read_eq_ok_iff]
  rfl

/-- A text is a header if the kinds of its tokens are derived as one. -/
theorem Header.parse_eq_ok_iff {text : String} {header : Header} :
    Header.parse text = .ok header ↔ Header.Derives (kindsAhead text.toList) header := by
  rw [Header.derives_iff]
  show Header.reader.read (tokensOf text) (Cursor.ofText text).last = .ok header ↔ _
  rw [Reader.read_eq_ok_iff]
  rfl

/-- Parsing accepts exactly the grammar and builds the tree that it gives.  A text is a rule, or a
header, exactly if its tokens are free of flaws and derived as that rule or header; no sequence of
kinds is derived as two rules; and the sentences are those of the short grammar. -/
theorem parse_accepts_exactly_the_grammar :
    (∀ (text : String) (rule : Rule), Rule.parse text = .ok rule ↔
      (∀ flaw, .flaw flaw ∉ (tokensOf text).map Token.kind) ∧
        Rule.Derives ((tokensOf text).map Token.kind) rule) ∧
    (∀ (text : String) (header : Header), Header.parse text = .ok header ↔
      (∀ flaw, .flaw flaw ∉ (tokensOf text).map Token.kind) ∧
        Header.Derives ((tokensOf text).map Token.kind) header) ∧
    (∀ (kinds : List Kind) (rule other : Rule),
      Rule.Derives kinds rule → Rule.Derives kinds other → rule = other) ∧
    ∀ kinds : List Kind, (∃ rule, Rule.Derives kinds rule) ↔ RulePhrase kinds := by
  refine ⟨?_, ?_, ?_, ?_⟩
  · intro text rule
    rw [Rule.parse_eq_ok_iff]
    exact ⟨fun derivation => ⟨derivation.no_flaw, derivation⟩, And.right⟩
  · intro text header
    rw [Header.parse_eq_ok_iff]
    exact ⟨fun derivation => ⟨derivation.no_flaw, derivation⟩, And.right⟩
  · intro kinds rule other derivation another
    exact Rule.derives_unique derivation another
  · intro kinds
    exact RulePhrase.iff_derives.symm

/-- A negation in front of a conjunction takes its first operand, and the tree in which it takes
both is not derived. -/
theorem negation_takes_first_conjunct :
    let kinds : List Kind := [.keyword .on, .identifier "created", .keyword .if, .keyword .not,
      .identifier "left", .comparison .equal, .bool true, .keyword .and, .identifier "right",
      .comparison .equal, .int 1, .identifier "maximize", .leftParenthesis, .rightParenthesis]
    let left : Condition := .compare "left" .equal (.bool true)
    let right : Condition := .compare "right" .equal (.int 1)
    Rule.Derives kinds ⟨⟨"created", some (.and (.not left) right)⟩, [⟨"maximize", []⟩]⟩ ∧
      ¬ Rule.Derives kinds ⟨⟨"created", some (.not (.and left right))⟩, [⟨"maximize", []⟩]⟩ := by
  intro kinds left right
  have first : Condition.Derives .unary
      [.identifier "left", .comparison .equal, .bool true] left := .compare (.bool true)
  have second : Condition.Derives .unary
      [.identifier "right", .comparison .equal, .int 1] right := .compare (.int 1)
  have guard := Condition.Derives.conjunction (.and (.unary (.not first)) second)
  have derivation :
      Rule.Derives kinds ⟨⟨"created", some (.and (.not left) right)⟩, [⟨"maximize", []⟩]⟩ :=
    .intro (.guarded "created" guard) (.snoc .nil (.bare "maximize")) (by simp)
  refine ⟨derivation, ?_⟩
  intro other
  have same := parse_accepts_exactly_the_grammar.2.2.1 kinds _ _ derivation other
  cases same

end ActiveRules
