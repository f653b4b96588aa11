import ActiveRules.Proofs.Decimals
import ActiveRules.Proofs.TokenKinds

/-!
# Spellings that are one token

Every kind of token that a rule is written with has a spelling that is read back as exactly that
token, provided that what follows does not go on with it.

## Main definitions

* `Stops`: nothing of a class of characters goes on into a text.
* `IsIdentifier`: a word that is not reserved.
* `Kind.IsFound`: the kinds of tokens that scanning finds.

## Main statements

* `Scan.reads_identifier`, `Scan.reads_comparison`, `Scan.reads_encode`: names, comparisons and
  quoted texts.
* `Scan.reads_integral`, `Scan.reads_double`, `Scan.reads_single`: the three kinds of numerals.
* `Scan.isFound_first`: what scanning finds.
* `isIdentifier_of_mem_kindsAhead`: what is read as an identifier can be written again.
-/

namespace ActiveRules

/-! ## Runs of characters -/

/-- A text does not begin with a character of this class. -/
def Stops (p : Char → Bool) (text : List Char) : Prop := ∀ c ∈ text.head?, p c = false

section Runs

variable {p q : Char → Bool} {run rest : List Char}

theorem Stops.takeWhile_eq_nil (stops : Stops p rest) : rest.takeWhile p = [] := by
  cases rest with
  | nil => rfl
  | cons c tail =>
    rw [List.takeWhile_cons, stops c rfl]
    rfl

theorem Stops.dropWhile_eq_self (stops : Stops p rest) : rest.dropWhile p = rest := by
  cases rest with
  | nil => rfl
  | cons c tail =>
    rw [List.dropWhile_cons, stops c rfl]
    rfl

theorem takeWhile_run (member : ∀ c ∈ run, p c = true) (stops : Stops p rest) :
    (run ++ rest).takeWhile p = run := by
  rw [List.takeWhile_append_of_pos member, stops.takeWhile_eq_nil, List.append_nil]

theorem dropWhile_run (member : ∀ c ∈ run, p c = true) (stops : Stops p rest) :
    (run ++ rest).dropWhile p = rest := by
  rw [List.dropWhile_append_of_pos member, stops.dropWhile_eq_self]

theorem stops_dropWhile (p : Char → Bool) (text : List Char) : Stops p (text.dropWhile p) := by
  intro c ahead
  have first := List.head?_dropWhile_not p text
  rw [Option.mem_def.mp ahead] at first
  simpa using first

/-- What stops two classes stops both together. -/
theorem Stops.or (stops : Stops p rest) (others : Stops q rest) :
    Stops (fun c => p c || q c) rest := fun c ahead =>
  Bool.or_eq_false_iff.mpr ⟨stops c ahead, others c ahead⟩

/-- A text begins with a given character or not. -/
theorem exists_cons_or_stops (c : Char) (text : List Char) :
    (∃ rest, text = c :: rest) ∨ Stops (· == c) text := by
  cases text with
  | nil => exact .inr nofun
  | cons d rest =>
    by_cases same : d = c
    · exact .inl ⟨rest, by rw [same]⟩
    · right
      rintro e ⟨⟩
      exact beq_eq_false_iff_ne.mpr same

end Runs

/-! ## Names -/

/-- The words that are not identifiers. -/
def reservedWords : List String :=
  ["on", "if", "and", "AND", "or", "OR", "not", "NOT", "contains", "true", "false"]

/-- A name that is written as one word and not reserved: a letter or an underscore, then letters,
digits, underscores and points. -/
structure IsIdentifier (name : String) : Prop where
  starts : name.toList.head?.any Scan.startsWord = true
  continues : name.toList.all Scan.continuesWord = true
  free : name ∉ reservedWords

instance (name : String) : Decidable (IsIdentifier name) :=
  decidable_of_iff
    (name.toList.head?.any Scan.startsWord = true ∧
      name.toList.all Scan.continuesWord = true ∧ name ∉ reservedWords)
    ⟨fun h => ⟨h.1, h.2.1, h.2.2⟩, fun h => ⟨h.starts, h.continues, h.free⟩⟩

theorem Kind.ofWord_of_not_mem {word : String} (free : word ∉ reservedWords) :
    ofWord word = .identifier word := by
  unfold ofWord
  split <;> simp_all [reservedWords]

namespace Scan

theorem not_isDigit_of_startsWord {c : Char} (starts : startsWord c = true) :
    c.isDigit = false := by
  rw [Bool.eq_false_iff]
  intro digit
  have range : (decide (c.val ≥ '0'.val) && decide (c.val ≤ '9'.val)) = true := digit
  have classes : (decide (c.val ≥ 'A'.val ∧ c.val ≤ 'Z'.val) ||
    (decide (c.val ≥ 'a'.val) && decide (c.val ≤ 'z'.val)) || c == '_') = true := starts
  simp only [Bool.or_eq_true, Bool.and_eq_true, decide_eq_true_eq, beq_iff_eq,
    UInt32.le_iff_toNat_le, ge_iff_le] at range classes
  change 48 ≤ c.toNat ∧ c.toNat ≤ 57 at range
  change ((65 ≤ c.toNat ∧ c.toNat ≤ 90) ∨ (97 ≤ c.toNat ∧ c.toNat ≤ 122)) ∨ c = '_' at classes
  rcases classes with (upper | lower) | underscore
  · omega
  · omega
  · subst underscore
    revert digit
    decide

theorem head_mem_of_symbol? {c : Char} {text : List Char} {found : Scan}
    (h : symbol? (c :: text) = some found) : c ∈ ['>', '<', '=', '!', '(', ')', ','] := by
  unfold symbol? at h
  split at h <;> simp_all

/-- An operator or a punctuation mark at the beginning of a text is its first token. -/
theorem first_of_symbol? {c : Char} {text : List Char} {found : Scan}
    (read : symbol? (c :: text) = some found) : first c text = found := by
  have member := head_mem_of_symbol? read
  have noQuote : c ≠ '"' := by rintro rfl; revert member; decide
  have noMinus : c ≠ '-' := by rintro rfl; revert member; decide
  have noDigit : c.isDigit = false := by
    simp only [List.mem_cons, List.not_mem_nil, or_false] at member
    rcases member with rfl | rfl | rfl | rfl | rfl | rfl | rfl <;> rfl
  simp [first, noQuote, noMinus, noDigit, read]

/-- A character that starts a word starts nothing else. -/
theorem first_of_startsWord {c : Char} (starts : startsWord c = true) (text : List Char) :
    first c text = word c text := by
  have noQuote : c ≠ '"' := by rintro rfl; cases starts
  have noMinus : c ≠ '-' := by rintro rfl; cases starts
  have noDigit := not_isDigit_of_startsWord starts
  have noSymbol : symbol? (c :: text) = none := by
    cases h : symbol? (c :: text) with
    | none => rfl
    | some found =>
      have member := head_mem_of_symbol? h
      simp only [List.mem_cons, List.not_mem_nil, or_false] at member
      rcases member with rfl | rfl | rfl | rfl | rfl | rfl | rfl <;> cases starts
  simp [first, noQuote, noMinus, noDigit, noSymbol, starts]

/-- A character of a class without blanks and without the comment sign begins a token. -/
theorem visible_of_class {p : Char → Bool} {c : Char} (member : p c = true)
    (outside : (['#', ' ', '\t', '\n', '\x0c', '\r'].any p) = false) :
    Text.isBlank c = false ∧ c ≠ '#' := by
  constructor
  · rw [Bool.eq_false_iff]
    intro blank
    simp only [Text.isBlank, Bool.or_eq_true, beq_iff_eq] at blank
    rcases blank with (((rfl | rfl) | rfl) | rfl) | rfl <;> simp [member] at outside
  · rintro rfl
    simp [member] at outside

/-- A word is read as a whole if what follows cannot go on with it. -/
theorem reads_word {spelling rest : List Char} (starts : spelling.head?.any startsWord = true)
    (continues : spelling.all continuesWord = true) (stops : Stops continuesWord rest) :
    Reads spelling (.ofWord (.ofList spelling)) rest := by
  cases spelling with
  | nil => cases starts
  | cons c tail =>
    have startsHere : startsWord c = true := starts
    have member : ∀ d ∈ tail, continuesWord d = true := fun d inside =>
      List.all_eq_true.mp continues d (List.mem_cons_of_mem c inside)
    have visible := visible_of_class startsHere rfl
    refine .intro visible.1 visible.2 ?_
    rw [first_of_startsWord startsHere, word, takeWhile_run member stops,
      dropWhile_run member stops]

theorem reads_identifier {name : String} {rest : List Char} (identifier : IsIdentifier name)
    (stops : Stops continuesWord rest) : Reads name.toList (.identifier name) rest := by
  have reads := reads_word identifier.starts identifier.continues stops
  rw [String.ofList_toList, Kind.ofWord_of_not_mem identifier.free] at reads
  exact reads

/-! ## Comparisons and quoted texts -/

/-- A comparison is read as a whole in front of a space. -/
theorem reads_comparison (comparison : Comparison) (rest : List Char) :
    Reads comparison.symbol.toList (.comparison comparison) (' ' :: rest) := by
  cases comparison with
  | contains => exact reads_word rfl rfl (by rintro c ⟨⟩; rfl)
  | equal => exact .intro rfl (by decide) rfl
  | unequal => exact .intro rfl (by decide) rfl
  | greater => exact .intro rfl (by decide) rfl
  | atLeast => exact .intro rfl (by decide) rfl
  | less => exact .intro rfl (by decide) rfl
  | atMost => exact .intro rfl (by decide) rfl

end Scan

namespace Quoted

/-- Between quotes a backslash takes the character after it, unless that ends the line. -/
theorem scan_backslash {c : Char} (noLineFeed : c ≠ '\n') (text : List Char) :
    scan ('\\' :: c :: text) = (scan text).map (.precededBy (unescape c) ['\\', c]) := by
  rw [scan]
  exact noLineFeed

/-- Between quotes most characters stand for themselves. -/
theorem scan_plain {c : Char} (noQuote : c ≠ '"') (noLineFeed : c ≠ '\n')
    (noBackslash : c ≠ '\\') (text : List Char) :
    scan (c :: text) = (scan text).map (.precededBy [c] [c]) := by
  rw [scan]
  · exact noQuote
  · exact noLineFeed
  · exact fun tail backslash => absurd backslash noBackslash
  · exact fun d tail backslash => absurd backslash noBackslash
  · exact fun backslash => absurd backslash noBackslash

/-- What is no backslash with something behind it, and none at the end of the text, is none. -/
theorem ne_backslash {c : Char} {text : List Char}
    (noEscape : ∀ d tail, c = '\\' → text = d :: tail → False)
    (noneLast : c = '\\' → text = [] → False) : c ≠ '\\' := by
  intro backslash
  cases text with
  | nil => exact noneLast backslash rfl
  | cons d tail => exact noEscape d tail backslash rfl

/-- What is written between quotes for one character is read back as that character. -/
theorem scan_escape (c : Char) (text : List Char) :
    scan (escape c ++ text) = (scan text).map (.precededBy [c] (escape c)) := by
  unfold escape
  split
  · exact scan_backslash (by decide) text
  · exact scan_backslash (by decide) text
  · exact scan_backslash (by decide) text
  · exact scan_backslash (by decide) text
  · next noQuote noBackslash noLineFeed noTab =>
    exact scan_plain noQuote noLineFeed noBackslash text

/-- An encoded text closes at its own quote, whatever follows. -/
theorem scan_encode (content rest : List Char) :
    scan (content.flatMap escape ++ '"' :: rest) =
      some ⟨content, content.flatMap escape ++ ['"'], rest⟩ := by
  induction content with
  | nil => rfl
  | cons c tail ih =>
    rw [List.flatMap_cons, List.append_assoc, scan_escape, ih, Option.map_some,
      Literal.precededBy, List.append_assoc]
    rfl

end Quoted

namespace Scan

theorem reads_encode (content : String) (rest : List Char) :
    Reads (Quoted.encode content.toList) (.string content) rest := by
  show Reads ('"' :: (content.toList.flatMap Quoted.escape ++ ['"'])) _ _
  refine .intro rfl (by decide) ?_
  have closes := Quoted.scan_encode content.toList rest
  rw [first, if_pos rfl, List.append_assoc, List.singleton_append, string, closes]
  show (⟨.string (.ofList content.toList), _, _⟩ : Scan) = _
  rw [String.ofList_toList]

/-! ## Numerals -/

theorem first_of_isDigit {c : Char} (digit : c.isDigit = true) (text : List Char) :
    first c text = number false (c :: text) := by
  have noQuote : c ≠ '"' := by rintro rfl; cases digit
  rw [first, if_neg noQuote, if_pos digit]

theorem first_of_minus {c : Char} (digit : c.isDigit = true) (text : List Char) :
    first '-' (c :: text) = number true (c :: text) := by
  rw [first, if_neg (by decide), if_neg (by decide), if_pos ⟨rfl, digit⟩]

/-- A numeral is read as `Scan.number` reads it, behind its sign. -/
theorem reads_of_number {negative : Bool} {whole tail rest : List Char} {kind : Kind}
    (run : Numeral.IsRun whole)
    (found : number negative (whole ++ (tail ++ rest)) =
      ⟨kind, Numeral.sign negative ++ whole ++ tail, rest⟩) :
    Reads (Numeral.sign negative ++ whole ++ tail) kind rest := by
  obtain ⟨c, digits, rfl⟩ := List.exists_cons_of_ne_nil run.ne_nil
  have digit := run.isDigit c List.mem_cons_self
  cases negative with
  | false =>
    show Reads (c :: (digits ++ tail)) kind rest
    have visible := visible_of_class digit rfl
    refine .intro visible.1 visible.2 ?_
    rw [first_of_isDigit digit, List.append_assoc]
    exact found
  | true =>
    show Reads ('-' :: (c :: digits ++ tail)) kind rest
    refine .intro rfl (by decide) ?_
    rw [List.append_assoc, List.cons_append, first_of_minus digit]
    exact found

/-- An integer numeral is read as a whole if neither a digit nor a point follows. -/
theorem reads_integral (negative : Bool) {whole rest : List Char} (run : Numeral.IsRun whole)
    (stops : Stops (fun c => c.isDigit || c == '.') rest) :
    Reads (Numeral.sign negative ++ whole)
      (.ofInt (if negative then -(Numeral.value whole : Int) else Numeral.value whole)) rest := by
  have noDigit : Stops Char.isDigit rest :=
    fun c ahead => (Bool.or_eq_false_iff.mp (stops c ahead)).1
  have noPoint : ∀ tail, rest ≠ '.' :: tail := by
    rintro tail rfl
    cases stops '.' rfl
  have found : number negative (whole ++ ([] ++ rest)) =
      ⟨.ofInt (if negative then -(Numeral.value whole : Int) else Numeral.value whole),
        Numeral.sign negative ++ whole ++ [], rest⟩ := by
    rw [List.nil_append, number, takeWhile_run run.isDigit noDigit,
      dropWhile_run run.isDigit noDigit, List.append_nil]
    split
    · next tail => exact absurd rfl (noPoint tail)
    · rfl
  have reads := reads_of_number run found
  rw [List.append_nil] at reads
  exact reads

/-- A double-precision numeral is read as a whole if neither a digit nor an `f` follows. -/
theorem reads_double (negative : Bool) {whole fraction rest : List Char}
    (run : Numeral.IsRun whole) (digits : ∀ c ∈ fraction, c.isDigit = true)
    (stops : Stops (fun c => c.isDigit || c == 'f') rest) :
    Reads (Numeral.sign negative ++ whole ++ '.' :: fraction)
      (.double (.ofNumeral .double negative whole fraction)) rest := by
  have noDigit : Stops Char.isDigit rest := fun c ahead =>
    (Bool.or_eq_false_iff.mp (stops c ahead)).1
  have point : Stops Char.isDigit ('.' :: fraction ++ rest) := by rintro c ⟨⟩; rfl
  refine reads_of_number run ?_
  rw [number, takeWhile_run run.isDigit point, dropWhile_run run.isDigit point, List.cons_append]
  simp only [takeWhile_run digits noDigit, dropWhile_run digits noDigit]
  split
  · next after => cases stops 'f' rfl
  · rfl

/-- A single-precision numeral is closed by its suffix, whatever follows. -/
theorem reads_single (negative : Bool) {whole fraction : List Char} (rest : List Char)
    (run : Numeral.IsRun whole) (digits : ∀ c ∈ fraction, c.isDigit = true) :
    Reads (Numeral.sign negative ++ whole ++ '.' :: (fraction ++ ['f']))
      (.single (.ofNumeral .single negative whole fraction)) rest := by
  have suffix : Stops Char.isDigit ('f' :: rest) := by rintro c ⟨⟩; rfl
  have point : Stops Char.isDigit ('.' :: (fraction ++ ['f']) ++ rest) := by rintro c ⟨⟩; rfl
  refine reads_of_number run ?_
  rw [number, takeWhile_run run.isDigit point, dropWhile_run run.isDigit point, List.cons_append,
    List.append_assoc, List.singleton_append]
  simp only [takeWhile_run digits suffix, dropWhile_run digits suffix]
  rw [List.append_assoc _ _ ['f'], List.cons_append]
  rfl

end Scan

/-! ## What scanning finds -/

/-- The kinds of tokens that scanning finds: all but the end of the text, where identifiers are not
reserved words and the numbers with a fraction are those nearest to a numeral. -/
inductive Kind.IsFound : Kind → Prop where
  | identifier {name : String} (isIdentifier : IsIdentifier name) : IsFound (.identifier name)
  | keyword (keyword : Keyword) : IsFound (.keyword keyword)
  | string (content : String) : IsFound (.string content)
  | int (value : Int64) : IsFound (.int value)
  | single (negative : Bool) (whole fraction : List Char) :
      IsFound (.single (.ofNumeral .single negative whole fraction))
  | double (negative : Bool) (whole fraction : List Char) :
      IsFound (.double (.ofNumeral .double negative whole fraction))
  | bool (value : Bool) : IsFound (.bool value)
  | comparison (comparison : Comparison) : IsFound (.comparison comparison)
  | leftParenthesis : IsFound .leftParenthesis
  | rightParenthesis : IsFound .rightParenthesis
  | comma : IsFound .comma
  | flaw (flaw : Flaw) : IsFound (.flaw flaw)

theorem Kind.isFound_ofInt (i : Int) : (ofInt i).IsFound := by
  unfold ofInt
  split
  · exact .int _
  · exact .flaw _

/-- A word is reserved, or it is an identifier. -/
theorem Kind.isFound_ofWord {word : String} (starts : word.toList.head?.any Scan.startsWord = true)
    (continues : word.toList.all Scan.continuesWord = true) : (ofWord word).IsFound := by
  by_cases free : word ∈ reservedWords
  · simp only [reservedWords, List.mem_cons, List.not_mem_nil, or_false] at free
    rcases free with rfl | rfl | rfl | rfl | rfl | rfl | rfl | rfl | rfl | rfl | rfl <;> constructor
  · rw [ofWord_of_not_mem free]
    exact .identifier ⟨starts, continues, free⟩

namespace Scan

theorem continuesWord_of_startsWord {c : Char} (starts : startsWord c = true) :
    continuesWord c = true := by
  simp only [startsWord, continuesWord, Char.isAlphanum, Bool.or_eq_true] at starts ⊢
  rcases starts with letter | underscore
  · exact .inl (.inl (.inl letter))
  · exact .inl (.inr underscore)

theorem all_continuesWord_word {c : Char} (starts : startsWord c = true) (text : List Char) :
    (word c text).lexeme.all continuesWord = true := by
  rw [word, List.all_cons, continuesWord_of_startsWord starts, List.all_takeWhile, Bool.and_self]

theorem isFound_string (text : List Char) : (string text).kind.IsFound := by
  unfold string
  split
  · exact .string _
  · exact .flaw _

theorem isFound_number (negative : Bool) (text : List Char) :
    (number negative text).kind.IsFound := by
  unfold number
  dsimp only
  split
  · split
    · exact .single _ _ _
    · exact .double _ _ _
  · exact Kind.isFound_ofInt _

theorem isFound_symbol? {text : List Char} {found : Scan} (read : symbol? text = some found) :
    found.kind.IsFound := by
  unfold symbol? at read
  split at read <;> cases read <;> constructor

theorem isFound_word {c : Char} (starts : startsWord c = true) (text : List Char) :
    (word c text).kind.IsFound := by
  refine Kind.isFound_ofWord ?_ ?_
  · rw [String.toList_ofList]
    exact starts
  · rw [String.toList_ofList]
    exact all_continuesWord_word starts text

/-- What scanning finds. -/
theorem isFound_first (c : Char) (text : List Char) : (first c text).kind.IsFound := by
  obtain ⟨-, same⟩ | ⟨-, same⟩ | ⟨-, -, same⟩ | ⟨found, read, same⟩ | ⟨starts, same⟩ | same :=
    first_cases c text
  all_goals rw [same]
  · exact isFound_string text
  · exact isFound_number false (c :: text)
  · exact isFound_number true text
  · exact isFound_symbol? read
  · exact isFound_word starts text
  · exact .flaw _

end Scan

theorem Cursor.isFound_of_mem {cursor : Cursor} {token : Token} (member : token ∈ cursor.tokens) :
    token.kind.IsFound := by
  obtain ⟨c, text, same, -⟩ := exists_scan_of_mem member
  rw [same]
  exact Scan.isFound_first c text

theorem isFound_of_mem_kindsAhead {kind : Kind} (text : List Char)
    (member : kind ∈ kindsAhead text) : kind.IsFound := by
  obtain ⟨token, ahead, rfl⟩ := List.mem_map.mp member
  exact Cursor.isFound_of_mem ahead

/-- Every identifier among the tokens of a text can be written again. -/
theorem isIdentifier_of_mem_kindsAhead {name : String} (text : List Char)
    (member : .identifier name ∈ kindsAhead text) : IsIdentifier name := by
  cases isFound_of_mem_kindsAhead text member with
  | identifier isIdentifier => exact isIdentifier

end ActiveRules
