import ActiveRules.Value

/-!
# Tokens

Rule text is read as a sequence of tokens.  Every token knows the characters that it covers and
where they stand.  Text that is no token of the language still becomes one, of the kind `flaw`,
so that the reader of the tokens can say where the trouble is.

## Main definitions

* `Position`: a place in a text, counted in bytes, lines and columns.
* `Kind`: what a token is, with the value that it carries.
* `Kind.description`: what a token is called in messages.
* `Token`: a kind, the characters covered, and their position.
-/

namespace ActiveRules

/-- A place in a text.  The offset counts bytes from zero; lines, and characters within a line,
count from one. -/
structure Position where
  offset : Nat
  line : Nat
  column : Nat
deriving DecidableEq

namespace Position

/-- The beginning of a text. -/
def start : Position := ⟨0, 1, 1⟩

/-- The place just behind a character. -/
def after (position : Position) (c : Char) : Position :=
  if c = '\n' then ⟨position.offset + c.utf8Size, position.line + 1, 1⟩
  else ⟨position.offset + c.utf8Size, position.line, position.column + 1⟩

/-- The place just behind a run of characters. -/
def afterAll (position : Position) (text : List Char) : Position :=
  text.foldl after position

/-- Line and column, as messages give them. -/
def text (position : Position) : String :=
  Numeral.text position.line ++ ":" ++ Numeral.text position.column

end Position

/-- The reserved words that structure a rule. -/
inductive Keyword where
  | on
  | if
  | and
  | or
  | not
deriving DecidableEq

/-- The lower-case spelling of a reserved word. -/
def Keyword.name : Keyword → String
  | .on => "on"
  | .if => "if"
  | .and => "and"
  | .or => "or"
  | .not => "not"

/-- Why a piece of text is no token of the language. -/
inductive Flaw where
  | unterminatedString
  | unrecognizedCharacter
  | invalidNumber
deriving DecidableEq

/-- What is wrong, in words. -/
def Flaw.message : Flaw → String
  | .unterminatedString => "unterminated string literal"
  | .unrecognizedCharacter => "unrecognized character"
  | .invalidNumber => "invalid number literal"

/-- What a token is.  The end of the text counts as a token of its own. -/
inductive Kind where
  | identifier (name : String)
  | keyword (keyword : Keyword)
  | string (content : String)
  | int (value : Int64)
  | single (value : Single)
  | double (value : Double)
  | bool (value : Bool)
  | comparison (comparison : Comparison)
  | leftParenthesis
  | rightParenthesis
  | comma
  | flaw (flaw : Flaw)
  | finish

namespace Kind

/-- The kind of a word: a reserved word if it is one, else an identifier.  Only the connectives
have an upper-case spelling too. -/
def ofWord (word : String) : Kind :=
  match word with
  | "on" => keyword .on
  | "if" => keyword .if
  | "and" => keyword .and
  | "AND" => keyword .and
  | "or" => keyword .or
  | "OR" => keyword .or
  | "not" => keyword .not
  | "NOT" => keyword .not
  | "contains" => comparison .contains
  | "true" => bool true
  | "false" => bool false
  | name => identifier name

/-- The kind of an integer literal, which has to fit into sixty-four bits. -/
def ofInt (i : Int) : Kind :=
  if Int64.minValue.toInt ≤ i ∧ i ≤ Int64.maxValue.toInt then int (.ofInt i)
  else flaw .invalidNumber

/-- The value of a literal. -/
def literal? : Kind → Option Value
  | string content => some (.string content)
  | int i => some (.int i)
  | single x => some (.single x)
  | double x => some (.double x)
  | bool b => some (.bool b)
  | _ => none

/-- The value of an argument: a literal, or a bare identifier, which stands for its name. -/
def argument? : Kind → Option Value
  | identifier name => some (.string name)
  | kind => kind.literal?

/-- What a token is called in messages. -/
def description : Kind → String
  | identifier name => "identifier `" ++ name ++ "`"
  | keyword k => "keyword `" ++ k.name ++ "`"
  | string _ => "string literal"
  | int _ => "number literal"
  | single _ => "number literal"
  | double _ => "number literal"
  | bool true => "`true`"
  | bool false => "`false`"
  | comparison c => "operator `" ++ c.symbol ++ "`"
  | leftParenthesis => "`(`"
  | rightParenthesis => "`)`"
  | comma => "`,`"
  | flaw f => f.message
  | finish => "end of input"

end Kind

/-- A token: its kind, the characters that it covers, and where the first of them stands. -/
structure Token where
  kind : Kind
  lexeme : String
  position : Position

end ActiveRules
