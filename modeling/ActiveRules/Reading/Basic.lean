import ActiveRules.Diagnostic
import ActiveRules.Token.Cursor

/-!
# Readers of token sequences

A reader is an automaton over tokens: it starts with an empty reading and lets each token extend
it or refuses the token.  Reading stops at the first refused token, or at the end of the text.

## Main definitions

* `follow`: a state carried along a list for as long as it can be.
* `Reader`: an automaton that reads tokens.
* `Reader.read`: what a sequence of tokens is read as, or the diagnostic for the first token that
  is refused.
-/

namespace ActiveRules

/-- Carries a state along a list for as long as each element has a successor state.  Answers the
last state and the elements from the first refused one on. -/
def follow {S X : Type} (next? : S → X → Option S) : S → List X → S × List X
  | state, [] => (state, [])
  | state, x :: rest =>
    match next? state x with
    | some later => follow next? later rest
    | none => (state, x :: rest)

/-- An automaton that reads tokens: where it starts, how a token extends a reading, what a reading
amounts to if the text ends there, and which classes of tokens a diagnostic names. -/
structure Reader (R A : Type) where
  start : R
  next? : R → Kind → Option R
  result? : R → Option A
  expected : R → List Expectation

namespace Reader

variable {R A : Type}

/-- The reading of a sequence of tokens up to the first refused one, and the tokens from there. -/
def reach (reader : Reader R A) (tokens : List Token) : R × List Token :=
  follow (fun reading token => reader.next? reading token.kind) reader.start tokens

/-- What a sequence of tokens is read as.  `finish` stands for the end of the text. -/
def read (reader : Reader R A) (tokens : List Token) (finish : Token) : Except Diagnostic A :=
  let (reading, left) := reader.reach tokens
  match left, reader.result? reading with
  | [], some result => .ok result
  | [], none => .error (.ofToken finish (reader.expected reading))
  | token :: _, _ => .error (.ofToken token (reader.expected reading))

/-- How many tokens the reader looks at, the refused one or the end of the text included. -/
def looked (reader : Reader R A) (tokens : List Token) : Nat :=
  tokens.length - (reader.reach tokens).2.length + 1

/-- Reads from a cursor on.  The cursor moves behind the last token that was looked at. -/
def readFrom (reader : Reader R A) (cursor : Cursor) : Except Diagnostic A × Cursor :=
  let tokens := cursor.tokens
  (reader.read tokens cursor.last, cursor.advance (reader.looked tokens))

end Reader

end ActiveRules
