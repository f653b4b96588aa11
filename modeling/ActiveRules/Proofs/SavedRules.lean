import ActiveRules.Proofs.Loading
import ActiveRules.Proofs.RoundTrip

/-!
# Saving a rule base as text

A rule is written on one line: names and numbers hold no line feed, and strings hold it escaped.
The line begins with a keyword and ends with a parenthesis, so trimming takes nothing off it, and
it is no comment.  Hence rules that are saved one on a line are loaded as they were.

## Main definitions

* `Rule.savedText`: rules as a text with one of them on a line.

## Main statements

* `Rule.line_feed_not_mem_spelling`: a rule with identifiers for its names is one line.
* `Text.lines_flatMap`, `Text.trim_enclosed`: lines that were joined are cut apart again, and
  those without white space at their ends are left as they are by trimming.
* `RuleBase.loadIndexed_of_parse`: texts that are rules are loaded without loss.
* `RuleBase.loadText_savedText`: saved rules are loaded as they were.
-/

namespace ActiveRules

/-! ## Rules are lines -/

theorem Numeral.line_feed_not_mem_of_isDigit {text : List Char}
    (digits : ∀ c ∈ text, c.isDigit = true) : '\n' ∉ text := fun member =>
  absurd (digits _ member) (by decide)

theorem Numeral.line_feed_not_mem_signed (i : Int) : '\n' ∉ signed i := by
  have digits : '\n' ∉ digits i.natAbs := line_feed_not_mem_of_isDigit (isRun_digits _).isDigit
  unfold signed
  split <;> simp [digits]

theorem Quoted.line_feed_not_mem_escape (c : Char) : '\n' ∉ escape c := by
  unfold escape
  split
  case h_5 _ _ noFeed _ => simpa using Ne.symm noFeed
  all_goals decide

/-- A string is written on one line, since its line feeds are escaped. -/
theorem Quoted.line_feed_not_mem_encode (content : List Char) : '\n' ∉ encode content := by
  have escaped : '\n' ∉ content.flatMap escape := fun member =>
    have ⟨c, _, inside⟩ := List.mem_flatMap.mp member
    line_feed_not_mem_escape c inside
  simp [encode, escaped]

namespace Value

theorem line_feed_not_mem_numberSpelling {F : Format} (x : Binary F) :
    '\n' ∉ numberSpelling x := by
  cases x with
  | nan => simp [numberSpelling]
  | ordered negative rank =>
    have magnitude : '\n' ∉ if rank.val < F.infinity then (Decimal.shortest F rank).positional
        else ['i', 'n', 'f'] := by
      split
      · obtain ⟨whole, fraction, positional, run, digits, -⟩ :=
          (Decimal.shortest F rank).positional_spec
        have noFeed := Numeral.line_feed_not_mem_of_isDigit run.isDigit
        have noFeedBehind := Numeral.line_feed_not_mem_of_isDigit digits
        simp [positional, noFeed, noFeedBehind]
      · decide
    rw [numberSpelling]
    cases negative <;> simp [magnitude]

/-- A value is written on one line, whatever it is. -/
theorem line_feed_not_mem_spelling (value : Value) : '\n' ∉ value.spelling := by
  cases value with
  | bool b => cases b <;> decide
  | int i => exact Numeral.line_feed_not_mem_signed i.toInt
  | single x => simp [spelling, line_feed_not_mem_numberSpelling x]
  | double x => exact line_feed_not_mem_numberSpelling x
  | string content => exact Quoted.line_feed_not_mem_encode content.toList

end Value

theorem IsIdentifier.line_feed_not_mem {name : String} (identifier : IsIdentifier name) :
    '\n' ∉ name.toList := fun member =>
  absurd (List.all_eq_true.mp identifier.continues _ member) (by decide)

/-- A condition is written on one line. -/
theorem Condition.line_feed_not_mem_spelling {condition : Condition}
    (names : ∀ name ∈ condition.properties, IsIdentifier name) : '\n' ∉ condition.spelling := by
  induction condition with
  | compare property comparison value =>
    have name := (names property (List.mem_singleton_self property)).line_feed_not_mem
    have symbol : '\n' ∉ comparison.symbol.toList := by cases comparison <;> decide
    simp [spelling, name, symbol, value.line_feed_not_mem_spelling]
  | and left right ihLeft ihRight =>
    have first := ihLeft fun name member => names name (List.mem_append_left _ member)
    have second := ihRight fun name member => names name (List.mem_append_right _ member)
    simp [spelling, first, second]
  | or left right ihLeft ihRight =>
    have first := ihLeft fun name member => names name (List.mem_append_left _ member)
    have second := ihRight fun name member => names name (List.mem_append_right _ member)
    simp [spelling, first, second]
  | not inner ih => simp [spelling, ih names]

theorem Action.line_feed_not_mem_argumentSpelling (arguments : List Value) :
    '\n' ∉ argumentSpelling arguments := by
  fun_induction argumentSpelling arguments with
  | case1 => exact List.not_mem_nil
  | case2 value => exact value.line_feed_not_mem_spelling
  | case3 value next rest ih => simp [value.line_feed_not_mem_spelling, ih]

/-- An action is written on one line. -/
theorem Action.line_feed_not_mem_spelling {action : Action} (name : IsIdentifier action.name) :
    '\n' ∉ action.spelling := by
  simp [spelling, name.line_feed_not_mem, line_feed_not_mem_argumentSpelling]

/-- A header is written on one line. -/
theorem Header.line_feed_not_mem_spelling {header : Header}
    (names : ∀ name ∈ header.names, IsIdentifier name) : '\n' ∉ header.spelling := by
  obtain ⟨trigger, condition⟩ := header
  have triggerName := (names trigger List.mem_cons_self).line_feed_not_mem
  cases condition with
  | none => simp [spelling, triggerName]
  | some condition =>
    have inside := condition.line_feed_not_mem_spelling fun name member =>
      names name (List.mem_cons_of_mem _ member)
    simp [spelling, triggerName, inside]

namespace Rule

/-- A rule is written on one line, whatever its strings hold. -/
theorem line_feed_not_mem_spelling {rule : Rule} (names : ∀ name ∈ rule.names, IsIdentifier name) :
    '\n' ∉ rule.spelling := by
  have head := Header.line_feed_not_mem_spelling fun name member =>
    names name (List.mem_append_left _ member)
  have tail : '\n' ∉ rule.actions.flatMap fun action => ' ' :: action.spelling := by
    intro member
    obtain ⟨action, isAction, inside⟩ := List.mem_flatMap.mp member
    have name := names action.name (List.mem_append_right _ (List.mem_map_of_mem isAction))
    simp [Action.line_feed_not_mem_spelling name] at inside
  simp [spelling, head, tail]

/-- A rule begins with its keyword and ends with the parenthesis that closes its last action. -/
theorem exists_spelling_eq {rule : Rule} (nonempty : rule.actions ≠ []) :
    ∃ inside, rule.spelling = 'o' :: inside ++ [')'] := by
  obtain ⟨front, last, actions⟩ := (List.eq_nil_or_concat' rule.actions).resolve_left nonempty
  rw [spelling, Header.spelling, actions, List.flatMap_append, List.flatMap_singleton,
    Action.spelling]
  simp only [← List.append_assoc, ← List.cons_append]
  exact ⟨_, rfl⟩

end Rule

/-! ## Lines that were joined -/

namespace Text

theorem lines_of_not_mem {text : List Char} (noFeed : '\n' ∉ text) : lines text = [text] := by
  induction text with
  | nil => rfl
  | cons c rest ih =>
    have here : c ≠ '\n' := fun same => noFeed (same ▸ List.mem_cons_self)
    exact lines_cons_of_ne here (ih fun member => noFeed (List.mem_cons_of_mem c member))

/-- Lines with a line feed behind each of them, and the empty line behind the last line feed. -/
theorem lines_flatMap {texts : List (List Char)} (noFeed : ∀ text ∈ texts, '\n' ∉ text) :
    lines (texts.flatMap (· ++ ['\n'])) = texts ++ [[]] := by
  induction texts with
  | nil => rfl
  | cons text rest ih =>
    have behind := ih fun other member => noFeed other (List.mem_cons_of_mem _ member)
    rw [List.flatMap_cons, List.append_assoc, List.singleton_append, lines_append, behind,
      lines_of_not_mem (noFeed text List.mem_cons_self)]
    rfl

/-- Trimming takes nothing off a text without white space at its ends. -/
theorem trim_enclosed {first last : Char} (atFirst : isWhiteSpace first = false)
    (atLast : isWhiteSpace last = false) (inside : List Char) :
    trim (first :: inside ++ [last]) = first :: inside ++ [last] := by
  have start : trimStart (first :: inside ++ [last]) = first :: inside ++ [last] :=
    List.dropWhile_cons_of_neg (by simp [atFirst])
  have finish : trimStart (first :: inside ++ [last]).reverse =
      (first :: inside ++ [last]).reverse := by
    rw [List.reverse_append, List.reverse_singleton, List.singleton_append]
    exact List.dropWhile_cons_of_neg (by simp [atLast])
  rw [trim, start, finish, List.reverse_reverse]

end Text

/-! ## Saving and loading -/

theorem numbered_map {A B : Type} (f : A → B) (first : Nat) (elements : List A) :
    numbered first (elements.map f) = (numbered first elements).map (Prod.map id f) := by
  induction elements generalizing first with
  | nil => rfl
  | cons a rest ih =>
    rw [List.map_cons, numbered, ih]
    rfl

/-- Rules as a text, each followed by a line feed. -/
def Rule.savedText (rules : List Rule) : String :=
  String.join (rules.map fun rule => rule.text ++ "\n")

/-- Each rule is saved on a line of its own. -/
theorem Rule.toList_savedText (rules : List Rule) :
    (savedText rules).toList = (rules.map spelling).flatMap (· ++ ['\n']) := by
  simp [savedText, text, List.flatMap_map]

namespace RuleBase

/-- The lines that rules were saved on are those that hold a rule. -/
theorem ruleLines_savedText {rules : List Rule} (printable : ∀ rule ∈ rules, rule.Printable) :
    ruleLines (Rule.savedText rules) = numbered 0 (rules.map Rule.text) := by
  have oneLine : ∀ text ∈ rules.map Rule.spelling, '\n' ∉ text := by
    intro text member
    obtain ⟨rule, isRule, rfl⟩ := List.mem_map.mp member
    exact Rule.line_feed_not_mem_spelling (printable rule isRule).names
  have trimmed : (rules.map Rule.spelling).map Text.trim = rules.map Rule.spelling := by
    rw [List.map_map]
    refine List.map_congr_left fun rule member => ?_
    obtain ⟨inside, enclosed⟩ := Rule.exists_spelling_eq (printable rule member).actions_ne_nil
    rw [Function.comp_apply, enclosed, Text.trim_enclosed rfl rfl]
  have holding : ∀ placed ∈ numbered 0 (rules.map Rule.spelling),
      placed.2 ≠ [] ∧ placed.2.head? ≠ some '#' := by
    intro placed member
    have line := List.mem_map_of_mem (f := Prod.snd) member
    rw [map_snd_numbered] at line
    obtain ⟨rule, isRule, spelled⟩ := List.mem_map.mp line
    obtain ⟨inside, enclosed⟩ := Rule.exists_spelling_eq (printable rule isRule).actions_ne_nil
    rw [← spelled, enclosed]
    exact ⟨List.cons_ne_nil _ _, by simp⟩
  rw [ruleLines_eq_holdingRules, Rule.toList_savedText, Text.lines_flatMap oneLine,
    List.map_append, trimmed, numbered_append, holdingRules_append, holdingRules,
    List.filter_eq_self.mpr fun placed member => decide_eq_true (holding placed member),
    ← numbered_map, List.map_map]
  exact List.append_nil _

/-- Texts that are rules are loaded without loss. -/
theorem loadIndexed_of_parse (base : RuleBase) (first : Nat) {rules : List Rule}
    (readable : ∀ rule ∈ rules, Rule.parse rule.text = .ok rule) :
    base.loadIndexed (numbered first (rules.map Rule.text)) =
      ⟨⟨base.signals, base.rules ++ rules⟩, rules.length, [], rules.flatMap base.pushEvents⟩ := by
  induction rules generalizing base first with
  | nil => simp [numbered, loadIndexed]
  | cons rule rest ih =>
    have later := ih (base.push rule) (first + 1) fun other member =>
      readable other (List.mem_cons_of_mem _ member)
    have moved : (base.push rule).pushEvents = base.pushEvents := rfl
    rw [List.map_cons, numbered, loadIndexed, readable rule List.mem_cons_self]
    simp only [later, moved, List.length_cons, List.flatMap_cons]
    rw [push, List.append_assoc, List.singleton_append]

/-- Rules that can be printed are loaded from their saved text as they were: these rules and no
others are added, in their order, and nothing is dropped.  The only events are warnings of rules
whose trigger the rule base does not know. -/
theorem loadText_savedText (base : RuleBase) {rules : List Rule}
    (printable : ∀ rule ∈ rules, rule.Printable) :
    base.loadText (Rule.savedText rules) =
      ⟨⟨base.signals, base.rules ++ rules⟩, rules.length, [], rules.flatMap base.pushEvents⟩ := by
  rw [loadText, ruleLines_savedText printable]
  refine base.loadIndexed_of_parse 0 fun rule member => ?_
  obtain ⟨names, someActions, finite⟩ := printable rule member
  exact (Rule.parse_text_eq_ok_iff names).mpr (Rule.derives_writtenKinds someActions finite)

/-- Line ends, comment signs and white space of every kind within strings, one of which holds a
whole rule, and a trigger that the host never emits. -/
theorem rules_with_line_ends_are_loaded :
    let title : Condition := .compare "title" .contains (.string "\r\n# \u2028")
    let quoted : List Value := [.string "\n# none\non created fly()\n", .string "\u00a0\r"]
    let rules : List Rule :=
      [⟨⟨"created", some title⟩, [⟨"note", quoted⟩]⟩, ⟨⟨"folded", none⟩, [⟨"maximize", []⟩]⟩]
    (∀ rule ∈ rules, rule.Printable) ∧
    standard.loadText (Rule.savedText rules) =
      ⟨⟨.standard, rules⟩, 2, [], [.deafRule "folded"]⟩ := by
  intro title quoted rules
  have printable : ∀ rule ∈ rules, rule.Printable := by decide
  have events : rules.flatMap standard.pushEvents = [.deafRule "folded"] := by rfl
  exact ⟨printable, events ▸ standard.loadText_savedText printable⟩

end RuleBase

end ActiveRules
