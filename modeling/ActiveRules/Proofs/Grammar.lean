import ActiveRules.Rule
import ActiveRules.Token.Basic

/-!
# The grammar of rules

Two grammars over sequences of token kinds.  The first is stratified by precedence and says which
rule a sequence stands for.  The second is the short one that users are given: it says only which
sequences are rules, and allows many trees for one condition.

## Main definitions

* `Condition.Derives`: the stratified grammar of conditions, with the tree of each sentence.
* `Action.Derives`, `Header.Derives`, `Rule.Derives`: the grammar around it.
* `ConditionPhrase`, `ActionPhrase`, `RulePhrase`: the short grammar, without trees.

## Main statements

* `ConditionPhrase.iff_derives`, `RulePhrase.iff_derives`: both grammars have the same sentences.

## Design notes

A chain of one connective is extended at its right end, so it associates to the left.  The proof
that no sentence of the short grammar is lost goes through `UnaryChain`, which forgets precedence
but not the order of the operands: a chain can be joined to a chain and negated at its front.
-/

namespace ActiveRules

/-! ## Single tokens with a value -/

/-- A token that is a literal, and its value. -/
inductive Kind.IsLiteral : Kind → Value → Prop where
  | string (content : String) : IsLiteral (.string content) (.string content)
  | int (i : Int64) : IsLiteral (.int i) (.int i)
  | single (x : Single) : IsLiteral (.single x) (.single x)
  | double (x : Double) : IsLiteral (.double x) (.double x)
  | bool (b : Bool) : IsLiteral (.bool b) (.bool b)

/-- A token that is an argument, and its value: a literal, or an identifier, which is read as a
string. -/
inductive Kind.IsArgument : Kind → Value → Prop where
  | literal {kind : Kind} {value : Value} (literal : kind.IsLiteral value) : IsArgument kind value
  | identifier (name : String) : IsArgument (.identifier name) (.string name)

theorem Kind.isLiteral_iff {kind : Kind} {value : Value} :
    kind.IsLiteral value ↔ kind.literal? = some value := by
  constructor
  · rintro (_ | _ | _ | _ | _) <;> rfl
  · intro found
    cases kind <;> cases found <;> constructor

theorem Kind.isArgument_iff {kind : Kind} {value : Value} :
    kind.IsArgument value ↔ kind.argument? = some value := by
  constructor
  · rintro (literal | name)
    · cases literal <;> rfl
    · rfl
  · intro found
    cases kind with
    | identifier name => cases found; exact .identifier name
    | _ => exact .literal (isLiteral_iff.mpr found)

/-! ## The stratified grammar -/

/-- The strata of the grammar of conditions, the loosest binding first. -/
inductive Stratum where
  | disjunction
  | conjunction
  | unary

/-- The sentences of each stratum, and the conditions that they stand for. -/
inductive Condition.Derives : Stratum → List Kind → Condition → Prop where
  | conjunction {kinds : List Kind} {only : Condition} (operand : Derives .conjunction kinds only) :
      Derives .disjunction kinds only
  | or {chain more : List Kind} {left right : Condition}
      (operands : Derives .disjunction chain left) (operand : Derives .conjunction more right) :
      Derives .disjunction (chain ++ .keyword .or :: more) (.or left right)
  | unary {kinds : List Kind} {only : Condition} (operand : Derives .unary kinds only) :
      Derives .conjunction kinds only
  | and {chain more : List Kind} {left right : Condition}
      (operands : Derives .conjunction chain left) (operand : Derives .unary more right) :
      Derives .conjunction (chain ++ .keyword .and :: more) (.and left right)
  | not {kinds : List Kind} {inner : Condition} (operand : Derives .unary kinds inner) :
      Derives .unary (.keyword .not :: kinds) (.not inner)
  | parentheses {kinds : List Kind} {inner : Condition}
      (inside : Derives .disjunction kinds inner) :
      Derives .unary (.leftParenthesis :: kinds ++ [.rightParenthesis]) inner
  | compare {property : String} {comparison : Comparison} {kind : Kind} {value : Value}
      (literal : kind.IsLiteral value) :
      Derives .unary [.identifier property, .comparison comparison, kind]
        (.compare property comparison value)

/-- One argument or more, with commas between them. -/
inductive Action.ArgumentsDerive : List Kind → List Value → Prop where
  | one {kind : Kind} {value : Value} (argument : kind.IsArgument value) :
      ArgumentsDerive [kind] [value]
  | more {kind : Kind} {value : Value} {kinds : List Kind} {values : List Value}
      (argument : kind.IsArgument value) (others : ArgumentsDerive kinds values) :
      ArgumentsDerive (kind :: .comma :: kinds) (value :: values)

/-- A name and, in parentheses, arguments or none. -/
inductive Action.Derives : List Kind → Action → Prop where
  | bare (name : String) :
      Derives [.identifier name, .leftParenthesis, .rightParenthesis] ⟨name, []⟩
  | applied (name : String) {kinds : List Kind} {arguments : List Value}
      (inside : ArgumentsDerive kinds arguments) :
      Derives (.identifier name :: .leftParenthesis :: kinds ++ [.rightParenthesis])
        ⟨name, arguments⟩

/-- A trigger and, behind the keyword, a condition or none. -/
inductive Header.Derives : List Kind → Header → Prop where
  | plain (trigger : String) : Derives [.keyword .on, .identifier trigger] ⟨trigger, none⟩
  | guarded (trigger : String) {kinds : List Kind} {condition : Condition}
      (guard : Condition.Derives .disjunction kinds condition) :
      Derives (.keyword .on :: .identifier trigger :: .keyword .if :: kinds)
        ⟨trigger, some condition⟩

/-- Actions one after another. -/
inductive Action.SequenceDerives : List Kind → List Action → Prop where
  | nil : SequenceDerives [] []
  | snoc {front kinds : List Kind} {actions : List Action} {action : Action}
      (earlier : SequenceDerives front actions) (last : Action.Derives kinds action) :
      SequenceDerives (front ++ kinds) (actions ++ [action])

/-- A header and at least one action. -/
inductive Rule.Derives : List Kind → Rule → Prop where
  | intro {front kinds : List Kind} {header : Header} {actions : List Action}
      (head : Header.Derives front header) (tail : Action.SequenceDerives kinds actions)
      (nonempty : actions ≠ []) : Derives (front ++ kinds) ⟨header, actions⟩

/-! ## The short grammar -/

/-- The sentences that are conditions, precedence left open. -/
inductive ConditionPhrase : List Kind → Prop where
  | or {left right : List Kind} (first : ConditionPhrase left) (second : ConditionPhrase right) :
      ConditionPhrase (left ++ .keyword .or :: right)
  | and {left right : List Kind} (first : ConditionPhrase left) (second : ConditionPhrase right) :
      ConditionPhrase (left ++ .keyword .and :: right)
  | not {kinds : List Kind} (operand : ConditionPhrase kinds) :
      ConditionPhrase (.keyword .not :: kinds)
  | parentheses {kinds : List Kind} (inside : ConditionPhrase kinds) :
      ConditionPhrase (.leftParenthesis :: kinds ++ [.rightParenthesis])
  | compare {property : String} {comparison : Comparison} {kind : Kind} {value : Value}
      (literal : kind.IsLiteral value) :
      ConditionPhrase [.identifier property, .comparison comparison, kind]

/-- One argument or more, with commas between them. -/
inductive ArgumentsPhrase : List Kind → Prop where
  | one {kind : Kind} {value : Value} (argument : kind.IsArgument value) : ArgumentsPhrase [kind]
  | more {kind : Kind} {value : Value} {kinds : List Kind} (argument : kind.IsArgument value)
      (others : ArgumentsPhrase kinds) : ArgumentsPhrase (kind :: .comma :: kinds)

/-- The sentences that are actions. -/
inductive ActionPhrase : List Kind → Prop where
  | bare (name : String) : ActionPhrase [.identifier name, .leftParenthesis, .rightParenthesis]
  | applied (name : String) {kinds : List Kind} (inside : ArgumentsPhrase kinds) :
      ActionPhrase (.identifier name :: .leftParenthesis :: kinds ++ [.rightParenthesis])

/-- The sentences that are rules. -/
inductive RulePhrase : List Kind → Prop where
  | plain (trigger : String) {actions : List (List Kind)} (nonempty : actions ≠ [])
      (each : ∀ kinds ∈ actions, ActionPhrase kinds) :
      RulePhrase (.keyword .on :: .identifier trigger :: actions.flatten)
  | guarded (trigger : String) {guard : List Kind} {actions : List (List Kind)}
      (condition : ConditionPhrase guard) (nonempty : actions ≠ [])
      (each : ∀ kinds ∈ actions, ActionPhrase kinds) :
      RulePhrase (.keyword .on :: .identifier trigger :: .keyword .if :: guard ++ actions.flatten)

/-! ## Both grammars have the same sentences -/

/-- Sentences of the innermost stratum, joined by connectives of either kind. -/
inductive UnaryChain : List Kind → Prop where
  | unary {kinds : List Kind} {condition : Condition}
      (operand : Condition.Derives .unary kinds condition) : UnaryChain kinds
  | join {chain kinds : List Kind} {connective : Keyword} {condition : Condition}
      (operands : UnaryChain chain) (logical : connective = .and ∨ connective = .or)
      (operand : Condition.Derives .unary kinds condition) :
      UnaryChain (chain ++ .keyword connective :: kinds)

namespace UnaryChain

/-- Two chains joined by a connective are a chain. -/
theorem append {left right : List Kind} {connective : Keyword} (first : UnaryChain left)
    (logical : connective = .and ∨ connective = .or) (second : UnaryChain right) :
    UnaryChain (left ++ .keyword connective :: right) := by
  induction second with
  | unary operand => exact .join first logical operand
  | @join chain kinds inner _ _ innerLogical operand ih =>
    have regrouped : left ++ .keyword connective :: (chain ++ .keyword inner :: kinds) =
        (left ++ .keyword connective :: chain) ++ .keyword inner :: kinds := by simp
    rw [regrouped]
    exact .join ih innerLogical operand

/-- A negation in front of a chain takes its first operand. -/
theorem negate {kinds : List Kind} (chain : UnaryChain kinds) :
    UnaryChain (.keyword .not :: kinds) := by
  induction chain with
  | unary operand => exact .unary (.not operand)
  | join _ logical operand ih => exact .join ih logical operand

/-- A chain is a disjunction: its last conjunction takes one more operand, or a new one begins. -/
theorem derives {kinds : List Kind} (chain : UnaryChain kinds) :
    ∃ condition, Condition.Derives .disjunction kinds condition := by
  induction chain with
  | unary operand => exact ⟨_, .conjunction (.unary operand)⟩
  | join _ logical operand ih =>
    obtain ⟨condition, derivation⟩ := ih
    rcases logical with rfl | rfl
    · -- The new operand belongs to the last conjunction, which may be the only one.
      cases derivation with
      | conjunction operands => exact ⟨_, .conjunction (.and operands operand)⟩
      | or earlier operands =>
        rw [List.append_assoc, List.cons_append]
        exact ⟨_, .or earlier (.and operands operand)⟩
    · exact ⟨_, .or derivation (.unary operand)⟩

end UnaryChain

/-- A condition of the short grammar is a chain. -/
theorem ConditionPhrase.unaryChain {kinds : List Kind} (phrase : ConditionPhrase kinds) :
    UnaryChain kinds := by
  induction phrase with
  | or _ _ ihFirst ihSecond => exact ihFirst.append (.inr rfl) ihSecond
  | and _ _ ihFirst ihSecond => exact ihFirst.append (.inl rfl) ihSecond
  | not _ ih => exact ih.negate
  | parentheses _ ih =>
    obtain ⟨condition, inside⟩ := ih.derives
    exact .unary (.parentheses inside)
  | compare literal => exact .unary (.compare literal)

theorem ConditionPhrase.of_derives {stratum : Stratum} {kinds : List Kind} {condition : Condition}
    (derivation : Condition.Derives stratum kinds condition) : ConditionPhrase kinds := by
  induction derivation with
  | conjunction _ ih => exact ih
  | or _ _ ihOperands ihOperand => exact .or ihOperands ihOperand
  | unary _ ih => exact ih
  | and _ _ ihOperands ihOperand => exact .and ihOperands ihOperand
  | not _ ih => exact .not ih
  | parentheses _ ih => exact .parentheses ih
  | compare literal => exact .compare literal

/-- Precedence takes no sentence away and adds none. -/
theorem ConditionPhrase.iff_derives {kinds : List Kind} :
    ConditionPhrase kinds ↔ ∃ condition, Condition.Derives .disjunction kinds condition := by
  constructor
  · intro phrase
    exact phrase.unaryChain.derives
  · rintro ⟨condition, derivation⟩
    exact .of_derives derivation

theorem ArgumentsPhrase.iff_derives {kinds : List Kind} :
    ArgumentsPhrase kinds ↔ ∃ values, Action.ArgumentsDerive kinds values := by
  constructor
  · intro phrase
    induction phrase with
    | one argument => exact ⟨_, .one argument⟩
    | more argument _ ih =>
      obtain ⟨values, others⟩ := ih
      exact ⟨_, .more argument others⟩
  · rintro ⟨values, derivation⟩
    induction derivation with
    | one argument => exact .one argument
    | more argument _ ih => exact .more argument ih

theorem ActionPhrase.iff_derives {kinds : List Kind} :
    ActionPhrase kinds ↔ ∃ action, Action.Derives kinds action := by
  constructor
  · rintro (name | ⟨name, inside⟩)
    · exact ⟨_, .bare name⟩
    · obtain ⟨values, derivation⟩ := ArgumentsPhrase.iff_derives.mp inside
      exact ⟨_, .applied name derivation⟩
  · rintro ⟨action, name | ⟨name, inside⟩⟩
    · exact .bare name
    · exact .applied name (ArgumentsPhrase.iff_derives.mpr ⟨_, inside⟩)

namespace Action

/-- Actions already read, and as many more as there are phrases behind them. -/
theorem SequenceDerives.extend {front : List Kind} {done : List Action}
    (earlier : SequenceDerives front done) {phrases : List (List Kind)}
    (each : ∀ kinds ∈ phrases, ActionPhrase kinds) :
    ∃ actions, SequenceDerives (front ++ phrases.flatten) (done ++ actions) ∧
      actions.length = phrases.length := by
  induction phrases generalizing front done with
  | nil => exact ⟨[], by simpa using earlier, rfl⟩
  | cons kinds others ih =>
    obtain ⟨action, derivation⟩ := ActionPhrase.iff_derives.mp (each kinds List.mem_cons_self)
    obtain ⟨actions, whole, count⟩ := ih (.snoc earlier derivation) fun phrase member =>
      each phrase (List.mem_cons_of_mem _ member)
    refine ⟨action :: actions, ?_, by rw [List.length_cons, count, List.length_cons]⟩
    rw [List.flatten_cons, ← List.append_assoc, List.append_cons]
    exact whole

theorem SequenceDerives.phrases {kinds : List Kind} {actions : List Action}
    (derivation : SequenceDerives kinds actions) :
    ∃ phrases : List (List Kind), phrases.flatten = kinds ∧
      (∀ phrase ∈ phrases, ActionPhrase phrase) ∧ phrases.length = actions.length := by
  induction derivation with
  | nil => exact ⟨[], rfl, by simp, rfl⟩
  | @snoc front kinds actions action _ last ih =>
    obtain ⟨phrases, rfl, each, count⟩ := ih
    refine ⟨phrases ++ [kinds], by simp, ?_, by simp [count]⟩
    intro phrase member
    rcases List.mem_append.mp member with earlier | final
    · exact each phrase earlier
    · rw [List.mem_singleton.mp final]
      exact ActionPhrase.iff_derives.mpr ⟨action, last⟩

end Action

/-- The short grammar of rules has exactly the sentences of the stratified one. -/
theorem RulePhrase.iff_derives {kinds : List Kind} :
    RulePhrase kinds ↔ ∃ rule, Rule.Derives kinds rule := by
  constructor
  · rintro (⟨trigger, nonempty, each⟩ | ⟨trigger, condition, nonempty, each⟩)
    · obtain ⟨actions, tail, count⟩ := Action.SequenceDerives.nil.extend each
      have someActions : actions ≠ [] := by
        rintro rfl
        exact nonempty (List.eq_nil_of_length_eq_zero count.symm)
      exact ⟨_, .intro (.plain trigger) tail someActions⟩
    · obtain ⟨actions, tail, count⟩ := Action.SequenceDerives.nil.extend each
      obtain ⟨_, guard⟩ := ConditionPhrase.iff_derives.mp condition
      have someActions : actions ≠ [] := by
        rintro rfl
        exact nonempty (List.eq_nil_of_length_eq_zero count.symm)
      exact ⟨_, .intro (.guarded trigger guard) tail someActions⟩
  · rintro ⟨rule, head, tail, nonempty⟩
    obtain ⟨phrases, rfl, each, count⟩ := tail.phrases
    have somePhrases : phrases ≠ [] := by
      rintro rfl
      exact nonempty (List.eq_nil_of_length_eq_zero count.symm)
    cases head with
    | plain trigger => exact .plain trigger somePhrases each
    | guarded trigger guard =>
      exact .guarded trigger (ConditionPhrase.of_derives guard) somePhrases each

end ActiveRules
