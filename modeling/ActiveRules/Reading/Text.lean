import ActiveRules.Reading.Basic
import ActiveRules.Reading.Rule

/-!
# Rules from text

## Main definitions

* `Rule.reader`, `Header.reader`: the readers of the two forms of text.
* `Rule.parse`, `Header.parse`: a whole text as a rule, or as a header without actions.
* `Cursor.takeRule`: a rule read from the middle of a text.
-/

namespace ActiveRules

/-- The reader of rules. -/
def Rule.reader : Reader RuleReading Rule where
  start := .header .start
  next? := RuleReading.next?
  result? := RuleReading.rule?
  expected := RuleReading.expected

/-- The reader of headers that stand alone.  Where the header may end, a diagnostic says so. -/
def Header.reader : Reader HeaderReading Header where
  start := .start
  next? := HeaderReading.next?
  result? := HeaderReading.header?
  expected reading :=
    match reading.header? with
    | some _ => reading.expected ++ [.finish]
    | none => reading.expected

/-- A text read as a rule. -/
def Rule.parse (text : String) : Except Diagnostic Rule :=
  (Rule.reader.readFrom (.ofText text)).1

/-- A text read as a header without actions. -/
def Header.parse (text : String) : Except Diagnostic Header :=
  (Header.reader.readFrom (.ofText text)).1

/-- A rule read from a cursor on, up to the end of the text, and the cursor behind the last token
that was looked at. -/
def Cursor.takeRule (cursor : Cursor) : Except Diagnostic Rule × Cursor :=
  Rule.reader.readFrom cursor

end ActiveRules
