import ActiveRules.Proofs.Coherence
import ActiveRules.Proofs.Rereading
import ActiveRules.Proofs.SavedRules

/-!
# What is read is well formed

Rules can be put together that no text stands for.  Of those that a text does stand for much is
known without looking at the text: their names are identifiers, they have an action, none of their
numbers is "not a number", and they are written on one line.

## Main definitions

* `Header.IsWellFormed`, `Rule.IsWellFormed`: all that is known of what was read.

## Main statements

* `Rule.Derives.isNan_eq_false`: where no token is "not a number", no value is.
* `parsing_yields_well_formed`: rules and headers that were read are well formed.
-/

namespace ActiveRules

/-- What is known of a header that was read. -/
structure Header.IsWellFormed (header : Header) : Prop where
  /-- The trigger and every property are names that are not reserved. -/
  names : ∀ name ∈ header.names, IsIdentifier name
  /-- No number is "not a number". -/
  numbers : ∀ value ∈ header.values, value.isNan = false
  /-- The header is written on one line. -/
  oneLine : '\n' ∉ header.spelling

/-- What is known of a rule that was read. -/
structure Rule.IsWellFormed (rule : Rule) : Prop where
  /-- The trigger, every property and every action have names that are not reserved. -/
  names : ∀ name ∈ rule.names, IsIdentifier name
  /-- There is an action. -/
  actions_ne_nil : rule.actions ≠ []
  /-- No number is "not a number". -/
  numbers : ∀ value ∈ rule.values, value.isNan = false
  /-- The rule is written on one line. -/
  oneLine : '\n' ∉ rule.text.toList

/-! ## No number is "not a number" -/

/-- The number nearest to a numeral is a number, if only an infinity. -/
theorem Kind.IsFound.carries_isNan {kind : Kind} (found : kind.IsFound) :
    kind.carries Value.isNan = false := by
  cases found <;> rfl

/-- No token of a text is "not a number". -/
theorem countP_isNan_kindsAhead (text : List Char) :
    (kindsAhead text).countP (Kind.carries Value.isNan) = 0 := by
  rw [List.countP_eq_zero]
  intro kind member
  rw [(isFound_of_mem_kindsAhead text member).carries_isNan]
  decide

theorem Value.isNan_eq_false_of_countP {values : List Value} (uncounted : values.countP isNan = 0) :
    ∀ value ∈ values, value.isNan = false := fun value member =>
  Bool.eq_false_iff.mpr (List.countP_eq_zero.mp uncounted value member)

theorem Header.Derives.isNan_eq_false {text : List Char} {header : Header}
    (derivation : Header.Derives (kindsAhead text) header) :
    ∀ value ∈ header.values, value.isNan = false :=
  Value.isNan_eq_false_of_countP (derivation.countP_carries.symm.trans
    (countP_isNan_kindsAhead text))

theorem Rule.Derives.isNan_eq_false {text : List Char} {rule : Rule}
    (derivation : Rule.Derives (kindsAhead text) rule) :
    ∀ value ∈ rule.values, value.isNan = false :=
  Value.isNan_eq_false_of_countP ((derivation.countP_carries fun _ => rfl).symm.trans
    (countP_isNan_kindsAhead text))

/-! ## Rules and headers that were read -/

/-- Rules and headers that were read from a text are well formed, whatever the text is. -/
theorem parsing_yields_well_formed (text : String) :
    (∀ rule, Rule.parse text = .ok rule → rule.IsWellFormed) ∧
      ∀ header, Header.parse text = .ok header → header.IsWellFormed := by
  constructor
  · intro rule read
    obtain ⟨names, nonempty⟩ := Rule.of_parse_eq_ok read
    have oneLine : '\n' ∉ rule.text.toList := by
      rw [Rule.text, String.toList_ofList]
      exact Rule.line_feed_not_mem_spelling names
    exact ⟨names, nonempty, (Rule.parse_eq_ok_iff.mp read).isNan_eq_false, oneLine⟩
  · intro header read
    have derivation := Header.parse_eq_ok_iff.mp read
    have names : ∀ name ∈ header.names, IsIdentifier name := fun name member =>
      isIdentifier_of_mem_kindsAhead text.toList (derivation.identifier_mem name member)
    exact ⟨names, derivation.isNan_eq_false, Header.line_feed_not_mem_spelling names⟩

/-- A rule on several lines, with a name of points and digits, words that are reserved in other
spellings, line feeds within strings, a bare argument, a negative zero and an infinity, and a header
that ends in a comment. -/
theorem rule_on_several_lines_is_well_formed :
    let text := "# too high\non window.1 if NOT (title contains \"a\\nb\" OR ON >= -0.0f) AND\n" ++
      "  IF == 1000000000000000000000000000000000000000.f\nnote(\"\\t\\n\", left)\n maximize()"
    (∃ rule, Rule.parse text = .ok rule ∧ rule.IsWellFormed ∧
      rule.names = ["window.1", "title", "ON", "IF", "note", "maximize"]) ∧
    ∃ header, Header.parse "on Or if not not.x < 01 # none" = .ok header ∧
      header.IsWellFormed := by
  intro text
  constructor
  · have run : (Rule.parse text).toOption.any (fun rule =>
        rule.names == ["window.1", "title", "ON", "IF", "note", "maximize"]) = true := by
      decide +kernel
    obtain ⟨rule, read, names⟩ := exists_of_toOption_any run
    exact ⟨rule, read, (parsing_yields_well_formed text).1 rule read, eq_of_beq names⟩
  · have run : (Header.parse "on Or if not not.x < 01 # none").toOption.any (fun _ => true) =
        true := by decide +kernel
    obtain ⟨header, read, -⟩ := exists_of_toOption_any run
    exact ⟨header, read, (parsing_yields_well_formed _).2 header read⟩

end ActiveRules
