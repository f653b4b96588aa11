import ActiveRules.Proofs.Lexemes
import ActiveRules.Rule

/-!
# The tokens that a rule is written as

The text of a rule is read as a sequence of tokens that can be told from the rule alone, without
scanning: one token a name, a keyword, a comparison, a mark or a literal.  The exceptions are
infinities and "not a number", whose names read as identifiers.

## Main definitions

* `Rule.names`, `Rule.values`: the identifiers and the values of a rule.
* `Rule.writtenKinds`: the kinds of the tokens that a rule is written as.

## Main statements

* `kindsAhead_value`: the text of a value, in front of a text that is delimited.
* `kindsAhead_condition`: the same for conditions.
* `kindsAhead_rule`: the text of a rule, whatever its values are.
-/

namespace ActiveRules

/-! ## Names and values of a rule -/

/-- The properties that a condition compares, from left to right. -/
def Condition.properties : Condition → List String
  | compare property _ _ => [property]
  | and left right => left.properties ++ right.properties
  | or left right => left.properties ++ right.properties
  | not inner => inner.properties

/-- The literals that a condition compares with, from left to right. -/
def Condition.values : Condition → List Value
  | compare _ _ value => [value]
  | and left right => left.values ++ right.values
  | or left right => left.values ++ right.values
  | not inner => inner.values

/-- The identifiers of a header: its trigger and the properties of its condition. -/
def Header.names (header : Header) : List String :=
  header.trigger :: header.condition.elim [] Condition.properties

/-- The values of a header. -/
def Header.values (header : Header) : List Value := header.condition.elim [] Condition.values

/-- The identifiers of a rule: its trigger, the properties of its condition, and the names of its
actions. -/
def Rule.names (rule : Rule) : List String :=
  rule.toHeader.names ++ rule.actions.map Action.name

/-- The values of a rule: the literals of its condition and the arguments of its actions. -/
def Rule.values (rule : Rule) : List Value :=
  rule.toHeader.values ++ rule.actions.flatMap Action.arguments

/-- Is a value anything but an infinity or "not a number"? -/
def Value.isFinite : Value → Bool
  | single x => x.isFinite
  | double x => x.isFinite
  | _ => true

/-! ## Written kinds -/

/-- The kinds of the tokens that the name of an infinity or of "not a number" is read as. -/
def Binary.nameKinds {F : Format} (suffix : List Char) : Binary F → List Kind
  | .nan => [.identifier (.ofList (['N', 'a', 'N'] ++ suffix))]
  | .ordered true _ =>
    [.flaw .unrecognizedCharacter, .identifier (.ofList (['i', 'n', 'f'] ++ suffix))]
  | .ordered false _ => [.identifier (.ofList (['i', 'n', 'f'] ++ suffix))]

/-- The kinds of the tokens that a value is written as. -/
def Value.writtenKinds : Value → List Kind
  | bool b => [.bool b]
  | int i => [.int i]
  | single x => if x.isFinite then [.single x] else x.nameKinds ['f']
  | double x => if x.isFinite then [.double x] else x.nameKinds []
  | string content => [.string content]

/-- The kinds of the tokens that a condition is written as. -/
def Condition.writtenKinds : Condition → List Kind
  | compare property comparison value =>
    .identifier property :: .comparison comparison :: value.writtenKinds
  | and left right =>
    .leftParenthesis :: left.writtenKinds ++ .keyword .and :: right.writtenKinds ++
      [.rightParenthesis]
  | or left right =>
    .leftParenthesis :: left.writtenKinds ++ .keyword .or :: right.writtenKinds ++
      [.rightParenthesis]
  | not inner =>
    .keyword .not :: .leftParenthesis :: inner.writtenKinds ++ [.rightParenthesis]

/-- The kinds of the tokens that the arguments of an action are written as. -/
def Action.argumentKinds : List Value → List Kind
  | [] => []
  | [value] => value.writtenKinds
  | value :: next :: rest => value.writtenKinds ++ .comma :: argumentKinds (next :: rest)

/-- The kinds of the tokens that an action is written as. -/
def Action.writtenKinds (action : Action) : List Kind :=
  .identifier action.name :: .leftParenthesis :: argumentKinds action.arguments ++
    [.rightParenthesis]

/-- The kinds of the tokens that a header is written as. -/
def Header.writtenKinds (header : Header) : List Kind :=
  .keyword .on :: .identifier header.trigger ::
    match header.condition with
    | none => []
    | some condition => .keyword .if :: condition.writtenKinds

/-- The kinds of the tokens that a rule is written as. -/
def Rule.writtenKinds (rule : Rule) : List Kind :=
  rule.toHeader.writtenKinds ++ rule.actions.flatMap Action.writtenKinds

/-! ## What may stand behind a word or a numeral -/

/-- A text that ends every word and every numeral in front of it: it is over, or it begins with a
space, a comma or a parenthesis. -/
def Delimited (text : List Char) : Prop := ∀ c ∈ text.head?, c ∈ [' ', '(', ')', ',']

theorem Delimited.stops {text : List Char} (delimited : Delimited text) {p : Char → Bool}
    (delimiters : ([' ', '(', ')', ','].all fun c => !p c) = true) : Stops p text := by
  intro c ahead
  have outside := List.all_eq_true.mp delimiters c (delimited c ahead)
  simpa using outside

section Delimiters

variable (text : List Char)

theorem delimited_nil : Delimited [] := by
  rintro c ⟨⟩

theorem delimited_cons {c : Char} (delimiter : c ∈ [' ', '(', ')', ',']) :
    Delimited (c :: text) := by
  rintro d ⟨⟩
  exact delimiter

theorem delimited_space : Delimited (' ' :: text) := delimited_cons text (by decide)

theorem delimited_leftParenthesis : Delimited ('(' :: text) := delimited_cons text (by decide)

theorem delimited_rightParenthesis : Delimited (')' :: text) := delimited_cons text (by decide)

theorem delimited_comma : Delimited (',' :: text) := delimited_cons text (by decide)

end Delimiters

/-! ## Marks and reserved words -/

@[simp]
theorem kindsAhead_leftParenthesis (rest : List Char) :
    kindsAhead ('(' :: rest) = .leftParenthesis :: kindsAhead rest := by
  have reads : Scan.Reads ['('] .leftParenthesis rest := .intro rfl (by decide) rfl
  exact kindsAhead_of_reads reads

@[simp]
theorem kindsAhead_rightParenthesis (rest : List Char) :
    kindsAhead (')' :: rest) = .rightParenthesis :: kindsAhead rest := by
  have reads : Scan.Reads [')'] .rightParenthesis rest := .intro rfl (by decide) rfl
  exact kindsAhead_of_reads reads

@[simp]
theorem kindsAhead_comma (rest : List Char) :
    kindsAhead (',' :: rest) = .comma :: kindsAhead rest := by
  have reads : Scan.Reads [','] .comma rest := .intro rfl (by decide) rfl
  exact kindsAhead_of_reads reads

/-- A word in front of a delimited text. -/
theorem kindsAhead_word {spelling rest : List Char}
    (starts : spelling.head?.any Scan.startsWord = true)
    (continues : spelling.all Scan.continuesWord = true) (delimited : Delimited rest) :
    kindsAhead (spelling ++ rest) = .ofWord (.ofList spelling) :: kindsAhead rest :=
  kindsAhead_of_reads (Scan.reads_word starts continues (delimited.stops rfl))

theorem kindsAhead_identifier {name : String} {rest : List Char} (identifier : IsIdentifier name)
    (delimited : Delimited rest) :
    kindsAhead (name.toList ++ rest) = .identifier name :: kindsAhead rest :=
  kindsAhead_of_reads (Scan.reads_identifier identifier (delimited.stops rfl))

/-! ## Values -/

theorem Numeral.signed_eq (i : Int) :
    signed i = sign (decide (i < 0)) ++ digits i.natAbs := by
  by_cases negative : i < 0 <;> simp [signed, sign, negative]

/-- An integer is written as a numeral that is read back as that integer. -/
theorem Scan.reads_signed (i : Int64) {rest : List Char} (delimited : Delimited rest) :
    Reads (Numeral.signed i.toInt) (.int i) rest := by
  have stops : Stops (fun c => c.isDigit || c == '.') rest := delimited.stops rfl
  have value : (if decide (i.toInt < 0) then -(Numeral.value (Numeral.digits i.toInt.natAbs) : Int)
      else Numeral.value (Numeral.digits i.toInt.natAbs)) = i.toInt := by
    rw [Numeral.value_digits]
    by_cases negative : i.toInt < 0
    · rw [if_pos (decide_eq_true negative)]
      omega
    · rw [if_neg (by simpa using negative)]
      omega
  have inRange : Int64.minValue.toInt ≤ i.toInt ∧ i.toInt ≤ Int64.maxValue.toInt :=
    ⟨i.minValue_le_toInt, i.toInt_le⟩
  have back : Kind.ofInt i.toInt = .int i := by
    rw [Kind.ofInt, if_pos inRange, Int64.ofInt_toInt]
  rw [Numeral.signed_eq, ← back]
  have reads := reads_integral (decide (i.toInt < 0)) (Numeral.isRun_digits i.toInt.natAbs) stops
  rw [value] at reads
  exact reads

/-- The name of an infinity or of "not a number" is read as an identifier, behind a minus sign
that is no token of the language. -/
theorem kindsAhead_numberName {F : Format} {x : Binary F} (infinite : x.isFinite = false)
    (suffix : List Char) {rest : List Char} (word : suffix.all Scan.continuesWord = true)
    (free : ∀ name ∈ [['N', 'a', 'N'], ['i', 'n', 'f']],
      String.ofList (name ++ suffix) ∉ reservedWords)
    (delimited : Delimited rest) :
    kindsAhead (Value.numberSpelling x ++ suffix ++ rest) =
      x.nameKinds suffix ++ kindsAhead rest := by
  have infinity : kindsAhead (['i', 'n', 'f'] ++ suffix ++ rest) =
      .identifier (.ofList (['i', 'n', 'f'] ++ suffix)) :: kindsAhead rest := by
    rw [kindsAhead_word rfl (by rw [List.all_append, word]; rfl) delimited,
      Kind.ofWord_of_not_mem (free _ (by decide))]
  cases x with
  | nan =>
    rw [Value.numberSpelling, kindsAhead_word rfl (by rw [List.all_append, word]; rfl) delimited,
      Kind.ofWord_of_not_mem (free _ (by decide))]
    rfl
  | ordered negative rank =>
    have outOfRange : ¬ rank.val < F.infinity := of_decide_eq_false infinite
    rw [Value.numberSpelling, if_neg outOfRange]
    cases negative with
    | false => exact infinity
    | true =>
      have minus : Scan.Reads ['-'] (.flaw .unrecognizedCharacter)
          (['i', 'n', 'f'] ++ suffix ++ rest) := .intro rfl (by decide) rfl
      show kindsAhead (['-'] ++ (['i', 'n', 'f'] ++ suffix ++ rest)) = _
      rw [kindsAhead_of_reads minus, infinity]
      rfl

/-- The text of a value in front of a delimited text. -/
theorem kindsAhead_value (value : Value) {rest : List Char} (delimited : Delimited rest) :
    kindsAhead (value.spelling ++ rest) = value.writtenKinds ++ kindsAhead rest := by
  cases value with
  | bool b =>
    cases b with
    | true => exact kindsAhead_word rfl rfl delimited
    | false => exact kindsAhead_word rfl rfl delimited
  | int i => exact kindsAhead_of_reads (Scan.reads_signed i delimited)
  | string content => exact kindsAhead_of_reads (Scan.reads_encode content rest)
  | single x =>
    rw [Value.spelling, Value.writtenKinds]
    by_cases finite : x.isFinite = true
    · obtain ⟨negative, whole, fraction, spelling, run, digits, back⟩ :=
        Value.exists_numeral finite
      have reads := Scan.reads_single negative rest run digits
      rw [if_pos finite, spelling, List.append_assoc _ _ ['f'], List.cons_append,
        kindsAhead_of_reads reads, back]
      rfl
    · rw [if_neg finite]
      exact kindsAhead_numberName (Bool.eq_false_iff.mpr finite) ['f'] rfl (by decide) delimited
  | double x =>
    rw [Value.spelling, Value.writtenKinds]
    by_cases finite : x.isFinite = true
    · obtain ⟨negative, whole, fraction, spelling, run, digits, back⟩ :=
        Value.exists_numeral finite
      have stops : Stops (fun c => c.isDigit || c == 'f') rest := delimited.stops rfl
      have reads := Scan.reads_double negative run digits stops
      rw [if_pos finite, spelling, kindsAhead_of_reads reads, back]
      rfl
    · have name :=
        kindsAhead_numberName (Bool.eq_false_iff.mpr finite) [] rfl (by decide) delimited
      rw [if_neg finite]
      rw [List.append_nil] at name
      exact name

/-! ## Conditions, actions and rules -/

/-- Two conditions joined by a connective, between parentheses. -/
theorem kindsAhead_pair {left right connective rest : List Char} {leftKinds rightKinds : List Kind}
    (ihLeft : ∀ {rest}, Delimited rest →
      kindsAhead (left ++ rest) = leftKinds ++ kindsAhead rest)
    (ihRight : ∀ {rest}, Delimited rest →
      kindsAhead (right ++ rest) = rightKinds ++ kindsAhead rest)
    (starts : connective.head?.any Scan.startsWord = true)
    (continues : connective.all Scan.continuesWord = true) :
    kindsAhead ('(' :: (left ++ (' ' :: (connective ++ (' ' :: (right ++ (')' :: rest))))))) =
      .leftParenthesis :: leftKinds ++ .ofWord (.ofList connective) :: rightKinds ++
        .rightParenthesis :: kindsAhead rest := by
  rw [kindsAhead_leftParenthesis, ihLeft (delimited_space _), kindsAhead_space,
    kindsAhead_word starts continues (delimited_space _), kindsAhead_space,
    ihRight (delimited_rightParenthesis _), kindsAhead_rightParenthesis]
  simp

/-- The text of a condition in front of a delimited text. -/
theorem kindsAhead_condition {condition : Condition}
    (names : ∀ name ∈ condition.properties, IsIdentifier name) {rest : List Char}
    (delimited : Delimited rest) :
    kindsAhead (condition.spelling ++ rest) = condition.writtenKinds ++ kindsAhead rest := by
  -- The rest is general, because inside a pair it is the connective or the parenthesis that
  -- delimits an operand.
  induction condition generalizing rest with
  | compare property comparison value =>
    have layout : (Condition.compare property comparison value).spelling ++ rest =
        property.toList ++
          (' ' :: (comparison.symbol.toList ++ (' ' :: (value.spelling ++ rest)))) := by
      simp [Condition.spelling]
    rw [layout, kindsAhead_identifier (names property (List.mem_singleton.mpr rfl))
        (delimited_space _), kindsAhead_space,
      kindsAhead_of_reads (Scan.reads_comparison comparison _), kindsAhead_space,
      kindsAhead_value value delimited]
    rfl
  | and left right ihLeft ihRight =>
    have layout : (Condition.and left right).spelling ++ rest =
        '(' :: (left.spelling ++
          (' ' :: (['a', 'n', 'd'] ++ (' ' :: (right.spelling ++ (')' :: rest)))))) := by
      simp [Condition.spelling]
    have leftNames : ∀ name ∈ left.properties, IsIdentifier name := fun name member =>
      names name (List.mem_append_left _ member)
    have rightNames : ∀ name ∈ right.properties, IsIdentifier name := fun name member =>
      names name (List.mem_append_right _ member)
    rw [layout, kindsAhead_pair (ihLeft leftNames) (ihRight rightNames) rfl rfl]
    simp [Condition.writtenKinds, Kind.ofWord]
  | or left right ihLeft ihRight =>
    have layout : (Condition.or left right).spelling ++ rest =
        '(' :: (left.spelling ++
          (' ' :: (['o', 'r'] ++ (' ' :: (right.spelling ++ (')' :: rest)))))) := by
      simp [Condition.spelling]
    have leftNames : ∀ name ∈ left.properties, IsIdentifier name := fun name member =>
      names name (List.mem_append_left _ member)
    have rightNames : ∀ name ∈ right.properties, IsIdentifier name := fun name member =>
      names name (List.mem_append_right _ member)
    rw [layout, kindsAhead_pair (ihLeft leftNames) (ihRight rightNames) rfl rfl]
    simp [Condition.writtenKinds, Kind.ofWord]
  | not inner ih =>
    have layout : (Condition.not inner).spelling ++ rest =
        ['n', 'o', 't'] ++ (' ' :: '(' :: (inner.spelling ++ (')' :: rest))) := by
      simp [Condition.spelling]
    rw [layout, kindsAhead_word rfl rfl (delimited_space _), kindsAhead_space,
      kindsAhead_leftParenthesis, ih names (delimited_rightParenthesis _),
      kindsAhead_rightParenthesis]
    simp [Condition.writtenKinds, Kind.ofWord]

/-- The arguments of an action in front of the parenthesis that closes them. -/
theorem kindsAhead_arguments (arguments : List Value) (rest : List Char) :
    kindsAhead (Action.argumentSpelling arguments ++ ')' :: rest) =
      Action.argumentKinds arguments ++ .rightParenthesis :: kindsAhead rest := by
  fun_induction Action.argumentSpelling arguments with
  | case1 => simp [Action.argumentKinds]
  | case2 value =>
    rw [kindsAhead_value value (delimited_rightParenthesis _), kindsAhead_rightParenthesis]
    rfl
  | case3 value next others ih =>
    rw [List.append_assoc, List.cons_append, List.cons_append,
      kindsAhead_value value (delimited_comma _), kindsAhead_comma, kindsAhead_space, ih]
    simp [Action.argumentKinds]

/-- The text of an action, whatever follows it. -/
theorem kindsAhead_action {action : Action} (name : IsIdentifier action.name) (rest : List Char) :
    kindsAhead (action.spelling ++ rest) = action.writtenKinds ++ kindsAhead rest := by
  have layout : action.spelling ++ rest = action.name.toList ++
      ('(' :: (Action.argumentSpelling action.arguments ++ (')' :: rest))) := by
    simp [Action.spelling]
  rw [layout, kindsAhead_identifier name (delimited_leftParenthesis _),
    kindsAhead_leftParenthesis, kindsAhead_arguments]
  simp [Action.writtenKinds]

/-- The actions of a rule, each behind a space. -/
theorem kindsAhead_actions {actions : List Action}
    (names : ∀ action ∈ actions, IsIdentifier action.name) :
    kindsAhead (actions.flatMap fun action => ' ' :: action.spelling) =
      actions.flatMap Action.writtenKinds := by
  induction actions with
  | nil => exact kindsAhead_nil
  | cons action others ih =>
    rw [List.flatMap_cons, List.cons_append, kindsAhead_space,
      kindsAhead_action (names action List.mem_cons_self),
      ih fun other member => names other (List.mem_cons_of_mem _ member)]
    rfl

theorem delimited_actions (actions : List Action) :
    Delimited (actions.flatMap fun action => ' ' :: action.spelling) := by
  cases actions with
  | nil => exact delimited_nil
  | cons action others => exact delimited_space _

/-- The text of a header in front of a delimited text. -/
theorem kindsAhead_header {header : Header} (names : ∀ name ∈ header.names, IsIdentifier name)
    {rest : List Char} (delimited : Delimited rest) :
    kindsAhead (header.spelling ++ rest) = header.writtenKinds ++ kindsAhead rest := by
  obtain ⟨trigger, condition⟩ := header
  have triggerName : IsIdentifier trigger := names trigger List.mem_cons_self
  cases condition with
  | none =>
    have layout : (Header.mk trigger none).spelling ++ rest =
        ['o', 'n'] ++ (' ' :: (trigger.toList ++ rest)) := by
      simp [Header.spelling]
    rw [layout, kindsAhead_word rfl rfl (delimited_space _), kindsAhead_space,
      kindsAhead_identifier triggerName delimited]
    rfl
  | some condition =>
    have layout : (Header.mk trigger (some condition)).spelling ++ rest =
        ['o', 'n'] ++ (' ' :: (trigger.toList ++
          (' ' :: (['i', 'f'] ++ (' ' :: (condition.spelling ++ rest)))))) := by
      simp [Header.spelling]
    have conditionNames : ∀ name ∈ condition.properties, IsIdentifier name := fun name member =>
      names name (List.mem_cons_of_mem _ member)
    rw [layout, kindsAhead_word rfl rfl (delimited_space _), kindsAhead_space,
      kindsAhead_identifier triggerName (delimited_space _), kindsAhead_space,
      kindsAhead_word rfl rfl (delimited_space _), kindsAhead_space,
      kindsAhead_condition conditionNames delimited]
    rfl

/-- The text of a rule is read as the tokens that it is written as, whatever its values are. -/
theorem kindsAhead_rule {rule : Rule} (names : ∀ name ∈ rule.names, IsIdentifier name) :
    kindsAhead rule.spelling = rule.writtenKinds := by
  have headerNames : ∀ name ∈ rule.toHeader.names, IsIdentifier name := fun name member =>
    names name (List.mem_append_left _ member)
  have actionNames : ∀ action ∈ rule.actions, IsIdentifier action.name := fun action member =>
    names action.name (List.mem_append_right _ (List.mem_map_of_mem member))
  rw [Rule.spelling, kindsAhead_header headerNames (delimited_actions rule.actions),
    kindsAhead_actions actionNames]
  rfl

end ActiveRules
