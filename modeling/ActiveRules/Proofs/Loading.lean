import ActiveRules.Proofs.Calls
import Mathlib.Data.List.Forall2

/-!
# Loading rules

Texts are loaded one after the other, and none is affected by the others.  A text that is no rule
is reported under the index that it was loaded with, which for the lines of a text is the number
of the line.

## Main definitions

* `Text.endedLines`: a text cut at its line ends, of which the last one may be missing.
* `RuleBase.keptLines`: the lines of a text that hold a rule, with their numbers.
* `Loading.followedBy`, `Loading.renumbered`: one loading and then another, and a loading under
  other indices.

## Main statements

* `RuleBase.loadIndexed_base`, `RuleBase.mem_dropped_iff`: what is loaded and what is dropped.
* `RuleBase.loadIndexed_append`, `RuleBase.loadIndexed_map`: texts loaded behind others, and under
  other indices.
* `Text.lines_append`, `Text.forall₂_lines`: the lines of a text.
* `RuleBase.ruleLines_eq`: the lines of a text that are loaded.
* `RuleBase.texts_are_loaded_one_by_one`: all this for lists of texts and for the lines of a text.
-/

namespace ActiveRules

/-! ## Numbers -/

section Numbered

variable {A : Type}

theorem getElem?_numbered (first : Nat) (elements : List A) (i : Nat) :
    (numbered first elements)[i]? = elements[i]?.map (Prod.mk (first + i)) := by
  induction elements generalizing first i with
  | nil => rfl
  | cons a rest ih =>
    cases i with
    | zero => rfl
    | succ i =>
      rw [numbered, List.getElem?_cons_succ, ih, Nat.add_right_comm]
      rfl

theorem mem_numbered_zero {elements : List A} {i : Nat} {a : A} :
    (i, a) ∈ numbered 0 elements ↔ elements[i]? = some a := by
  rw [List.mem_iff_getElem?]
  constructor
  · rintro ⟨place, found⟩
    rw [getElem?_numbered, Nat.zero_add] at found
    obtain ⟨b, inside, same⟩ := Option.map_eq_some_iff.mp found
    cases same
    exact inside
  · intro inside
    exact ⟨i, by rw [getElem?_numbered, inside, Nat.zero_add]; rfl⟩

/-- Numbered elements are elements numbered from zero under other numbers. -/
theorem eq_map_numbered (placed : List (Nat × A)) :
    placed = (numbered 0 (placed.map Prod.snd)).map
      (Prod.map (fun i => (placed.map Prod.fst).getD i 0) id) := by
  refine List.ext_getElem? fun i => ?_
  rw [List.getElem?_map, getElem?_numbered, List.getElem?_map]
  cases inside : placed[i]? with
  | none => rfl
  | some pair => simp [inside]

theorem numbered_append (first : Nat) (front back : List A) :
    numbered first (front ++ back) =
      numbered first front ++ numbered (first + front.length) back := by
  induction front generalizing first with
  | nil => rfl
  | cons a rest ih =>
    rw [List.cons_append, numbered, numbered, ih, List.cons_append, List.length_cons,
      Nat.add_assoc, Nat.add_comm 1]

/-- Counting from further on numbers the same elements further on. -/
theorem numbered_add (first more : Nat) (elements : List A) :
    numbered (first + more) elements = (numbered first elements).map (Prod.map (· + more) id) := by
  induction elements generalizing first with
  | nil => rfl
  | cons a rest ih =>
    rw [numbered, Nat.add_right_comm, ih]
    rfl

end Numbered

/-! ## Lists of texts -/

/-- The text with its index, if it is no rule. -/
def DroppedText.of? (placed : Nat × String) : Option DroppedText :=
  match Rule.parse placed.2 with
  | .ok _ => none
  | .error diagnostic => some ⟨placed.1, placed.2, diagnostic⟩

theorem DroppedText.of?_eq_some_iff {placed : Nat × String} {dropped : DroppedText} :
    of? placed = some dropped ↔ placed = (dropped.index, dropped.text) ∧
      Rule.parse dropped.text = .error dropped.diagnostic := by
  obtain ⟨index, text⟩ := placed
  obtain ⟨droppedIndex, droppedText, diagnostic⟩ := dropped
  unfold of?
  constructor
  · intro isDropped
    split at isDropped
    · cases isDropped
    · next failed =>
      cases isDropped
      exact ⟨rfl, failed⟩
  · rintro ⟨⟨⟩, failed⟩
    simp only [failed]

namespace Loading

/-- A loading with another one behind it, which begins with the rule base that it leaves. -/
def followedBy (loading : Loading) (more : RuleBase → Loading) : Loading :=
  let later := more loading.base
  ⟨later.base, loading.loaded + later.loaded, loading.dropped ++ later.dropped,
    loading.log ++ later.log⟩

/-- An event that tells of a text under another index. -/
def renumberedEvent (number : Nat → Nat) : Event → Event
  | .ruleDropped index diagnostic => .ruleDropped (number index) diagnostic
  | event => event

/-- The same loading of texts with other indices. -/
def renumbered (number : Nat → Nat) (loading : Loading) : Loading :=
  ⟨loading.base, loading.loaded,
    loading.dropped.map fun dropped => { dropped with index := number dropped.index },
    loading.log.map (renumberedEvent number)⟩

end Loading

namespace RuleBase

theorem loadIndexed_append (base : RuleBase) (front back : List (Nat × String)) :
    base.loadIndexed (front ++ back) =
      (base.loadIndexed front).followedBy fun base => base.loadIndexed back := by
  induction front generalizing base with
  | nil => simp [loadIndexed, Loading.followedBy]
  | cons placed rest ih =>
    obtain ⟨index, text⟩ := placed
    rw [List.cons_append, loadIndexed, loadIndexed]
    cases Rule.parse text with
    | ok rule => simp [ih, Loading.followedBy, Nat.add_right_comm]
    | error diagnostic => simp [ih, Loading.followedBy]

/-- The indices of texts only count for what is said of those that are dropped. -/
theorem loadIndexed_map (base : RuleBase) (number : Nat → Nat) (placed : List (Nat × String)) :
    base.loadIndexed (placed.map (Prod.map number id)) =
      (base.loadIndexed placed).renumbered number := by
  induction placed generalizing base with
  | nil => rfl
  | cons first rest ih =>
    obtain ⟨index, text⟩ := first
    have events (rule : Rule) :
        (base.pushEvents rule).map (Loading.renumberedEvent number) = base.pushEvents rule := by
      unfold pushEvents
      split <;> rfl
    rw [List.map_cons, Prod.map_apply, loadIndexed, loadIndexed]
    cases parsed : Rule.parse text with
    | ok rule => simp [parsed, ih, Loading.renumbered, events]
    | error diagnostic => simp [parsed, ih, Loading.renumbered, Loading.renumberedEvent]

/-- The rules that texts parse as are added in order. -/
theorem loadIndexed_base (base : RuleBase) (placed : List (Nat × String)) :
    (base.loadIndexed placed).base =
      ⟨base.signals,
        base.rules ++ (placed.map Prod.snd).filterMap fun text => (Rule.parse text).toOption⟩ := by
  induction placed generalizing base with
  | nil => rw [List.map_nil, List.filterMap_nil, List.append_nil]; rfl
  | cons first rest ih =>
    obtain ⟨index, text⟩ := first
    rw [loadIndexed, List.map_cons, List.filterMap_cons]
    cases Rule.parse text with
    | ok rule =>
      have later := ih (base.push rule)
      rw [push, List.append_assoc] at later
      exact later
    | error diagnostic => exact ih base

/-- The others are dropped in order. -/
theorem loadIndexed_dropped (base : RuleBase) (placed : List (Nat × String)) :
    (base.loadIndexed placed).dropped = placed.filterMap DroppedText.of? := by
  induction placed generalizing base with
  | nil => rfl
  | cons first rest ih =>
    obtain ⟨index, text⟩ := first
    rw [loadIndexed, List.filterMap_cons, DroppedText.of?]
    cases Rule.parse text with
    | ok rule => exact ih (base.push rule)
    | error diagnostic => exact congrArg _ (ih base)

/-- Every text is loaded or dropped. -/
theorem loaded_add_dropped (base : RuleBase) (placed : List (Nat × String)) :
    (base.loadIndexed placed).loaded + (base.loadIndexed placed).dropped.length =
      placed.length := by
  induction placed generalizing base with
  | nil => rfl
  | cons first rest ih =>
    obtain ⟨index, text⟩ := first
    rw [loadIndexed]
    cases Rule.parse text with
    | ok rule =>
      have later := ih (base.push rule)
      rw [List.length_cons]
      dsimp only
      omega
    | error diagnostic =>
      have later := ih base
      simp only [List.length_cons]
      omega

theorem mem_dropped_iff {base : RuleBase} {placed : List (Nat × String)} {dropped : DroppedText} :
    dropped ∈ (base.loadIndexed placed).dropped ↔
      (dropped.index, dropped.text) ∈ placed ∧
        Rule.parse dropped.text = .error dropped.diagnostic := by
  rw [loadIndexed_dropped, List.mem_filterMap]
  constructor
  · rintro ⟨_, member, isDropped⟩
    obtain ⟨rfl, failed⟩ := DroppedText.of?_eq_some_iff.mp isDropped
    exact ⟨member, failed⟩
  · rintro ⟨member, failed⟩
    exact ⟨_, member, DroppedText.of?_eq_some_iff.mpr ⟨rfl, failed⟩⟩

/-- Texts in order of their indices are dropped in that order. -/
theorem pairwise_dropped (base : RuleBase) {placed : List (Nat × String)}
    (inOrder : placed.Pairwise fun first second => first.1 < second.1) :
    (base.loadIndexed placed).dropped.Pairwise fun first second => first.index < second.index := by
  rw [loadIndexed_dropped]
  refine List.pairwise_filterMap.mpr (inOrder.imp ?_)
  intro first second below dropped isDropped other isOther
  obtain ⟨rfl, -⟩ := DroppedText.of?_eq_some_iff.mp isDropped
  obtain ⟨rfl, -⟩ := DroppedText.of?_eq_some_iff.mp isOther
  exact below

end RuleBase

/-! ## Lines -/

namespace Text

/-- A text cut at its line ends, which belong to no line.  A line ends in a line feed or in a
carriage return with a line feed behind it; the last line need not be ended. -/
def endedLines : List Char → List (List Char)
  | [] => []
  | '\n' :: rest => [] :: endedLines rest
  | '\r' :: '\n' :: rest => [] :: endedLines rest
  | c :: rest =>
    match endedLines rest with
    | [] => [[c]]
    | line :: others => (c :: line) :: others

theorem exists_lines_eq_cons (text : List Char) :
    ∃ line others, lines text = line :: others := by
  cases text with
  | nil => exact ⟨_, _, rfl⟩
  | cons c rest =>
    rw [lines]
    split
    · exact ⟨_, _, rfl⟩
    · split <;> exact ⟨_, _, rfl⟩

/-- Any other character than a line feed belongs to the first line. -/
theorem lines_cons_of_ne {c : Char} (noFeed : c ≠ '\n') {rest line : List Char}
    {others : List (List Char)} (cut : lines rest = line :: others) :
    lines (c :: rest) = (c :: line) :: others := by
  rw [lines, if_neg noFeed, cut]

theorem lines_append (front back : List Char) :
    lines (front ++ '\n' :: back) = lines front ++ lines back := by
  induction front with
  | nil => rfl
  | cons c front ih =>
    by_cases feed : c = '\n'
    · subst feed
      exact congrArg _ ih
    · obtain ⟨line, others, cut⟩ := exists_lines_eq_cons front
      rw [cut] at ih
      rw [List.cons_append, lines_cons_of_ne feed ih, lines_cons_of_ne feed cut]
      rfl

theorem length_lines (text : List Char) : (lines text).length = text.count '\n' + 1 := by
  induction text with
  | nil => rfl
  | cons c rest ih =>
    by_cases feed : c = '\n'
    · subst feed
      rw [List.count_cons_self, ← ih]
      rfl
    · obtain ⟨line, others, cut⟩ := exists_lines_eq_cons rest
      rw [lines_cons_of_ne feed cut, List.count_cons_of_ne feed, ← ih, cut]
      rfl

/-- White space at the end of a text is trimmed away. -/
theorem trim_append_of_isWhiteSpace {c : Char} (white : isWhiteSpace c = true)
    (text : List Char) : trim (text ++ [c]) = trim text := by
  have start : trimStart (text ++ [c]) =
      if (trimStart text).isEmpty then [] else trimStart text ++ [c] := by
    rw [trimStart, List.dropWhile_append, List.dropWhile_cons_of_pos white, List.dropWhile_nil]
    rfl
  rw [trim, trim, start]
  split
  · next empty => rw [List.isEmpty_iff.mp empty]
  · rw [List.reverse_append, List.reverse_singleton, List.singleton_append, trimStart,
      List.dropWhile_cons_of_pos white]
    rfl

theorem eq_nil_of_endedLines_eq_nil {text : List Char} (noLine : endedLines text = []) :
    text = [] := by
  unfold endedLines at noLine
  split at noLine
  · rfl
  · cases noLine
  · cases noLine
  · split at noLine <;> cases noLine

/-- A line that was cut at its line feed may keep a carriage return that belongs to its end. -/
def KeepsReturn (cut line : List Char) : Prop := cut = line ∨ cut = line ++ ['\r']

theorem KeepsReturn.cons {cut line : List Char} (c : Char) (keeps : KeepsReturn cut line) :
    KeepsReturn (c :: cut) (c :: line) :=
  keeps.imp (congrArg (c :: ·)) (congrArg (c :: ·))

theorem KeepsReturn.trim_eq {cut line : List Char} (keeps : KeepsReturn cut line) :
    trim cut = trim line := by
  rcases keeps with rfl | rfl
  · rfl
  · exact trim_append_of_isWhiteSpace rfl line

/-- Cutting a text at its line feeds alone gives the same lines, some with a carriage return behind
them, and an empty line behind the last one if that is ended. -/
theorem forall₂_lines (text : List Char) :
    ∃ last, (∀ line ∈ last, line = []) ∧
      List.Forall₂ KeepsReturn (lines text) (endedLines text ++ last) := by
  fun_induction endedLines text with
  | case1 => exact ⟨[[]], by simp, .cons (.inl rfl) .nil⟩
  | case2 rest ih =>
    obtain ⟨last, empty, alike⟩ := ih
    exact ⟨last, empty, .cons (.inl rfl) alike⟩
  | case3 rest ih =>
    obtain ⟨last, empty, alike⟩ := ih
    exact ⟨last, empty, .cons (.inr rfl) alike⟩
  | case4 c rest noFeed _ unended _ =>
    cases eq_nil_of_endedLines_eq_nil unended
    rw [lines_cons_of_ne noFeed rfl]
    exact ⟨[], by simp, .cons (.inl rfl) .nil⟩
  | case5 c rest noFeed _ line others isEnded ih =>
    obtain ⟨last, empty, alike⟩ := ih
    obtain ⟨cut, further, isCut⟩ := exists_lines_eq_cons rest
    rw [isCut, isEnded] at alike
    rw [lines_cons_of_ne noFeed isCut]
    cases alike with
    | cons first behind => exact ⟨last, empty, .cons (first.cons c) behind⟩

end Text

namespace RuleBase

/-- The lines that hold a rule: they are neither empty nor begin with `#`. -/
def holdingRules (lines : List (Nat × List Char)) : List (Nat × String) :=
  (lines.filter fun placed => placed.2 ≠ [] ∧ placed.2.head? ≠ some '#').map
    (Prod.map id String.ofList)

theorem holdingRules_append (front back : List (Nat × List Char)) :
    holdingRules (front ++ back) = holdingRules front ++ holdingRules back := by
  rw [holdingRules, List.filter_append, List.map_append]
  rfl

/-- Which lines hold a rule does not depend on their numbers. -/
theorem holdingRules_map (number : Nat → Nat) (lines : List (Nat × List Char)) :
    holdingRules (lines.map (Prod.map number id)) =
      (holdingRules lines).map (Prod.map number id) := by
  rw [holdingRules, holdingRules, List.filter_map, List.map_map, List.map_map]
  rfl

theorem holdingRules_eq_nil {lines : List (Nat × List Char)}
    (empty : ∀ line ∈ lines.map Prod.snd, line = []) : holdingRules lines = [] := by
  rw [holdingRules, List.map_eq_nil_iff, List.filter_eq_nil_iff]
  intro placed member
  simp [empty placed.2 (List.mem_map_of_mem member)]

theorem ruleLines_eq_holdingRules (text : String) :
    ruleLines text = holdingRules (numbered 0 ((Text.lines text.toList).map Text.trim)) := by
  unfold ruleLines holdingRules
  generalize numbered 0 ((Text.lines text.toList).map Text.trim) = lines
  rw [← List.filterMap_eq_map, List.filterMap_filter]
  refine List.filterMap_congr fun placed _ => ?_
  by_cases empty : placed.2 = [] <;> by_cases comment : placed.2.head? = some '#' <;>
    simp [empty, comment, Prod.map]

/-- The lines of a text, trimmed, that hold a rule, each with its number. -/
def keptLines (text : String) : List (Nat × String) :=
  holdingRules (numbered 0 ((Text.endedLines text.toList).map Text.trim))

/-- Whether the last line is ended makes no difference, nor does a carriage return in its end. -/
theorem ruleLines_eq (text : String) : ruleLines text = keptLines text := by
  obtain ⟨last, empty, alike⟩ := Text.forall₂_lines text.toList
  have trimmed : (Text.lines text.toList).map Text.trim =
      (Text.endedLines text.toList).map Text.trim ++ last.map Text.trim := by
    rw [← List.map_append, ← List.forall₂_eq_eq_eq, List.forall₂_map_left_iff,
      List.forall₂_map_right_iff]
    exact alike.imp fun _ _ => Text.KeepsReturn.trim_eq
  have noneLast : ∀ first, holdingRules (numbered first (last.map Text.trim)) = [] := by
    intro first
    refine holdingRules_eq_nil fun line member => ?_
    rw [map_snd_numbered] at member
    obtain ⟨untrimmed, inside, rfl⟩ := List.mem_map.mp member
    rw [empty untrimmed inside]
    rfl
  rw [ruleLines_eq_holdingRules, trimmed, numbered_append, holdingRules_append, noneLast,
    List.append_nil, keptLines]

/-- The lines behind a text have the numbers that follow those of the text. -/
theorem ruleLines_append (front back : String) :
    ruleLines (front ++ "\n" ++ back) =
      ruleLines front ++
        (ruleLines back).map (Prod.map (· + (front.toList.count '\n' + 1)) id) := by
  have cut : Text.lines (front ++ "\n" ++ back).toList =
      Text.lines front.toList ++ Text.lines back.toList := by
    rw [← Text.lines_append]
    simp
  have length : ((Text.lines front.toList).map Text.trim).length =
      front.toList.count '\n' + 1 := by
    rw [List.length_map, Text.length_lines]
  rw [ruleLines_eq_holdingRules, cut, List.map_append, numbered_append, length, numbered_add,
    holdingRules_append, holdingRules_map, ruleLines_eq_holdingRules, ruleLines_eq_holdingRules]

/-- The lines of a text are loaded like a list of texts, under their numbers. -/
theorem loadText_eq (base : RuleBase) (text : String) :
    base.loadText text = (base.load ((keptLines text).map Prod.snd)).renumbered fun i =>
      ((keptLines text).map Prod.fst).getD i 0 := by
  rw [loadText, load, ruleLines_eq, ← loadIndexed_map, ← eq_map_numbered]

theorem loadText_append (base : RuleBase) (front back : String) :
    base.loadText (front ++ "\n" ++ back) =
      (base.loadText front).followedBy fun base =>
        (base.loadText back).renumbered (· + (front.toList.count '\n' + 1)) := by
  simp only [loadText, ruleLines_append, loadIndexed_append, loadIndexed_map]

/-- Texts are loaded one by one, and none is affected by the others.  Those that are rules are added
in order behind the rules that are there, and exactly the others are dropped, each reported with
its index and with what is wrong with it.  The lines of a text are loaded like the list of those
that hold a rule, with line numbers for indices.  So a text in two parts with a line feed between
them is loaded by loading the second part behind the first, with numbers that go on. -/
theorem texts_are_loaded_one_by_one (base : RuleBase) :
    (∀ texts : List String,
      let loading := base.load texts
      loading.base =
          ⟨base.signals, base.rules ++ texts.filterMap fun text => (Rule.parse text).toOption⟩ ∧
        loading.loaded + loading.dropped.length = texts.length ∧
        (∀ dropped, dropped ∈ loading.dropped ↔ texts[dropped.index]? = some dropped.text ∧
          Rule.parse dropped.text = .error dropped.diagnostic) ∧
        loading.dropped.Pairwise fun first second => first.index < second.index) ∧
    (∀ text : String,
      let kept := keptLines text
      base.loadText text =
        (base.load (kept.map Prod.snd)).renumbered fun i => (kept.map Prod.fst).getD i 0) ∧
    ∀ front back : String, base.loadText (front ++ "\n" ++ back) =
      (base.loadText front).followedBy fun base =>
        (base.loadText back).renumbered (· + (front.toList.count '\n' + 1)) := by
  refine ⟨fun texts => ⟨?_, ?_, fun dropped => ?_, ?_⟩, base.loadText_eq, base.loadText_append⟩
  · rw [load, loadIndexed_base, map_snd_numbered]
  · have count := base.loaded_add_dropped (numbered 0 texts)
    rwa [← List.length_map Prod.snd, map_snd_numbered] at count
  · rw [load, mem_dropped_iff, mem_numbered_zero]
  · exact base.pairwise_dropped (pairwise_numbered 0 texts)

/-- A comment and a blank line count as lines. -/
example : (RuleBase.standard.loadText "# startup\r\n\r\non created\r\n").dropped.map
    (fun dropped => (dropped.index, dropped.text)) = [(2, "on created")] := by decide +kernel

end RuleBase

end ActiveRules
