import ActiveRules.Proofs.Layout
import ActiveRules.Proofs.Stream

/-!
# Where string literals end

A string literal says by itself where it ends: at the first quote that no backslash takes.  A
backslash takes the character behind it, be it another backslash, so a quote is taken if the run of
backslashes directly in front of it is odd.  The literal has to end on its line.

## Main definitions

* `Quoted.Escapes`: what is in front of a quote escapes it.
* `Quoted.IsBody`: what can stand between the quotes of a literal.
* `Quoted.IsClosed`: a quote on the first line of a text is not escaped.

## Main statements

* `Quoted.isBody_of_scan`, `Quoted.exists_scan_of_isClosed`: a literal is read where, and only
  where, it is closed.
* `string_literals_delimit_themselves`: a text that was written as a literal is read back in front
  of anything, and every quoted text is read up to the quote that closes it, or to the end of its
  line where none does.
-/

namespace ActiveRules

namespace Quoted

variable {text front body other rest more : List Char} {c : Char}

/-! ## Escaped quotes -/

/-- A quote with this between itself and the opening quote is escaped: the run of backslashes
directly in front of it is odd, so the last of them is not taken by the one before it. -/
def Escapes (front : List Char) : Prop := (front.reverse.takeWhile (· == '\\')).length % 2 = 1

instance : DecidablePred Escapes := fun _ => inferInstanceAs (Decidable (_ = _))

/-- What escapes no quote behind itself changes nothing about what is escaped further on. -/
theorem escapes_append (idle : ¬ Escapes body) (front : List Char) :
    Escapes (body ++ front) ↔ Escapes front := by
  unfold Escapes at idle ⊢
  rw [List.reverse_append, List.takeWhile_append]
  split
  -- The run of backslashes goes on into the body only if nothing else stands in between, and what
  -- it takes in there is even.
  · next onlyBackslashes =>
    rw [List.length_append, onlyBackslashes]
    omega
  · rfl

/-! ## The quote that closes a literal -/

/-- What can stand between the quotes of a literal: it keeps to one line, and the quote behind it is
the first that is not escaped. -/
structure IsBody (body : List Char) : Prop where
  /-- The literal ends on its line. -/
  inLine : '\n' ∉ body
  /-- No quote inside closes the literal. -/
  inside : ∀ front back, body = front ++ '"' :: back → Escapes front
  /-- The quote behind closes it. -/
  closes : ¬ Escapes body

/-- A quote on the first line of a text is not escaped. -/
def IsClosed (text : List Char) : Prop :=
  ∃ body rest, text = body ++ '"' :: rest ∧ '\n' ∉ body ∧ ¬ Escapes body

theorem isBody_nil : IsBody [] where
  inLine := List.not_mem_nil
  inside front back parts := by simp at parts
  closes := by decide

/-- Most characters stand for themselves between quotes. -/
theorem isBody_singleton (noQuote : c ≠ '"') (noLineFeed : c ≠ '\n') (plain : c ≠ '\\') :
    IsBody [c] where
  inLine := by simpa using noLineFeed.symm
  inside front back parts := by
    cases front with
    | nil => exact absurd (List.cons.inj parts).1 noQuote
    | cons d front => simp at parts
  closes := by simp [Escapes, plain]

/-- A backslash stands there with the character that it takes. -/
theorem isBody_pair (noLineFeed : c ≠ '\n') : IsBody ['\\', c] where
  inLine := by simpa using noLineFeed.symm
  inside front back parts := by
    rcases front with _ | ⟨d, _ | ⟨e, front⟩⟩
    · cases parts
    · obtain rfl := (List.cons.inj parts).1
      decide
    · simp at parts
  closes := by
    by_cases backslash : c = '\\'
    · rw [backslash]
      decide
    · simp [Escapes, backslash]

theorem IsBody.append (isBody : IsBody body) (otherIsBody : IsBody other) :
    IsBody (body ++ other) where
  inLine := by
    rw [List.mem_append, not_or]
    exact ⟨isBody.inLine, otherIsBody.inLine⟩
  inside front back parts := by
    rcases List.append_eq_append_iff.mp parts with ⟨between, split, tail⟩ | ⟨between, split, tail⟩
    · rw [split, escapes_append isBody.closes]
      exact otherIsBody.inside between back tail
    · cases between with
      | nil =>
        rw [List.append_nil] at split
        have atFront := otherIsBody.inside [] back tail.symm
        rwa [← escapes_append isBody.closes, List.append_nil, split] at atFront
      | cons c between =>
        obtain ⟨rfl, -⟩ := List.cons.inj tail
        exact isBody.inside front between split
  closes := by
    rw [escapes_append isBody.closes]
    exact otherIsBody.closes

/-- A text has at most one front that can be a body in front of a quote. -/
theorem IsBody.unique (isBody : IsBody body) (otherIsBody : IsBody other)
    (same : body ++ '"' :: rest = other ++ '"' :: more) : body = other := by
  have notLonger {shorter longer between tail back : List Char} (isBody : IsBody shorter)
      (longerIsBody : IsBody longer) (split : longer = shorter ++ between)
      (quote : '"' :: tail = between ++ '"' :: back) : shorter = longer := by
    cases between with
    | nil => rw [split, List.append_nil]
    | cons c between =>
      obtain ⟨rfl, -⟩ := List.cons.inj quote
      exact absurd (longerIsBody.inside shorter between split) isBody.closes
  rcases List.append_eq_append_iff.mp same with ⟨between, split, tail⟩ | ⟨between, split, tail⟩
  · exact notLonger isBody otherIsBody split tail
  · exact (notLonger otherIsBody isBody split tail).symm

/-- A text is closed with or without a body in front of it. -/
theorem IsBody.isClosed_of_append (isBody : IsBody body) (closed : IsClosed (body ++ text)) :
    IsClosed text := by
  obtain ⟨front, rest, parts, inLine, closes⟩ := closed
  rcases List.append_eq_append_iff.mp parts with ⟨between, split, tail⟩ | ⟨between, split, tail⟩
  · subst split
    rw [escapes_append isBody.closes] at closes
    exact ⟨between, rest, tail, fun member => inLine (List.mem_append_right _ member), closes⟩
  · cases between with
    | nil => exact ⟨[], rest, tail.symm, List.not_mem_nil, by decide⟩
    | cons c between =>
      obtain ⟨rfl, -⟩ := List.cons.inj tail
      exact absurd (isBody.inside front between split) closes

theorem IsClosed.quote_mem_line (closed : IsClosed text) : '"' ∈ text.takeWhile (· != '\n') := by
  obtain ⟨body, rest, rfl, inLine, -⟩ := closed
  have onLine : ∀ c ∈ body, (c != '\n') = true :=
    fun c member => bne_iff_ne.mpr fun feed => inLine (feed ▸ member)
  rw [List.takeWhile_append_of_pos onLine]
  exact List.mem_append_right _ (by simp)

/-! ## Reading -/

/-- What is read up to the quote that closes a literal is a body. -/
theorem isBody_of_scan {literal : Literal} (found : scan text = some literal) :
    ∃ body, literal.spelling = body ++ ['"'] ∧ IsBody body := by
  fun_induction scan text generalizing literal with
  | case1 =>
    cases found
    exact ⟨[], rfl, isBody_nil⟩
  | case2 => cases found
  | case3 => cases found
  | case4 c rest noLineFeed ih =>
    obtain ⟨inner, within, rfl⟩ := Option.map_eq_some_iff.mp found
    obtain ⟨body, spelling, isBody⟩ := ih within
    refine ⟨['\\', c] ++ body, ?_, (isBody_pair noLineFeed).append isBody⟩
    rw [Literal.precededBy, spelling, List.append_assoc]
  | case5 => cases found
  | case6 c rest noQuote noLineFeed _ noEscape noneLast ih =>
    obtain ⟨inner, within, rfl⟩ := Option.map_eq_some_iff.mp found
    obtain ⟨body, spelling, isBody⟩ := ih within
    have plain := ne_backslash noEscape noneLast
    refine ⟨[c] ++ body, ?_, (isBody_singleton noQuote noLineFeed plain).append isBody⟩
    rw [Literal.precededBy, spelling, List.append_assoc]
  | case7 => cases found

/-- A literal that is closed is read. -/
theorem exists_scan_of_isClosed (closed : IsClosed text) : ∃ literal, scan text = some literal := by
  fun_induction scan text with
  | case1 rest => exact ⟨_, rfl⟩
  | case2 => simpa using closed.quote_mem_line
  | case3 => simpa using closed.quote_mem_line
  | case4 c rest noLineFeed ih =>
    obtain ⟨inner, within⟩ := ih ((isBody_pair noLineFeed).isClosed_of_append closed)
    rw [within]
    exact ⟨_, rfl⟩
  | case5 => simpa using closed.quote_mem_line
  | case6 c rest noQuote noLineFeed _ noEscape noneLast ih =>
    have plain := ne_backslash noEscape noneLast
    have isBody := isBody_singleton noQuote noLineFeed plain
    obtain ⟨inner, within⟩ := ih (isBody.isClosed_of_append closed)
    rw [within]
    exact ⟨_, rfl⟩
  | case7 => simpa using closed.quote_mem_line

/-- A body in front of a quote is read whatever follows. -/
theorem exists_scan_of_isBody (isBody : IsBody body) (rest : List Char) :
    ∃ content, scan (body ++ '"' :: rest) = some ⟨content, body ++ ['"'], rest⟩ := by
  -- What was read ends somewhere on the line, and there is only one front that it can end behind.
  obtain ⟨⟨content, spelling, behind⟩, found⟩ :=
    exists_scan_of_isClosed ⟨body, rest, rfl, isBody.inLine, isBody.closes⟩
  obtain ⟨other, rfl, otherIsBody⟩ := isBody_of_scan found
  have parts := scan_append found
  rw [List.append_assoc, List.singleton_append] at parts
  obtain rfl := otherIsBody.unique isBody parts
  obtain ⟨-, rfl⟩ := List.cons.inj (List.append_cancel_left parts)
  exact ⟨content, found⟩

/-- A literal without a quote that closes it on its line has no reading. -/
theorem scan_eq_none_iff : scan text = none ↔ ¬ IsClosed text := by
  constructor
  · intro ended closed
    obtain ⟨literal, found⟩ := exists_scan_of_isClosed closed
    rw [ended] at found
    cases found
  · intro opened
    cases found : scan text with
    | none => rfl
    | some literal =>
      obtain ⟨body, spelling, isBody⟩ := isBody_of_scan found
      have parts := scan_append found
      rw [spelling, List.append_assoc] at parts
      exact absurd ⟨body, literal.rest, parts.symm, isBody.inLine, isBody.closes⟩ opened

end Quoted

/-- A quote begins a string literal where a token could stand. -/
theorem Cursor.next_quote (text : List Char) (position : Position) :
    next ⟨'"' :: text, position⟩ =
      (⟨(Scan.string text).kind, .ofList (Scan.string text).lexeme, position⟩,
        ⟨(Scan.string text).rest, position.afterAll (Scan.string text).lexeme⟩) :=
  next_of_split (Trivia.split_cons_of_visible rfl (by decide) text) position

/-- A quote that no quote closes on its line makes the rest of the line one flawed token. -/
theorem Cursor.next_quote_of_not_isClosed {text : List Char} (opened : ¬ Quoted.IsClosed text)
    (position : Position) :
    let line := '"' :: text.takeWhile (· != '\n')
    next ⟨'"' :: text, position⟩ = (⟨.flaw .unterminatedString, .ofList line, position⟩,
      ⟨text.dropWhile (· != '\n'), position.afterAll line⟩) := by
  rw [next_quote, Scan.string, Quoted.scan_eq_none_iff.mpr opened]

/-- String literals say by themselves where they end.  A text that was written as a literal is read
back as exactly that text, whatever follows it.  And a quote at the beginning of any text begins a
string literal just when a quote on the same line is not escaped: then the literal ends with the
first such quote, and otherwise the rest of the line is one flawed token. -/
theorem string_literals_delimit_themselves (position : Position) :
    (∀ (content : String) (rest : List Char),
      let spelling := (Value.string content).text
      Cursor.next ⟨spelling.toList ++ rest, position⟩ =
        (⟨.string content, spelling, position⟩, ⟨rest, position.afterAll spelling.toList⟩)) ∧
    (∀ text : List Char,
      (∃ content, (Cursor.next ⟨'"' :: text, position⟩).1.kind = .string content) ↔
        Quoted.IsClosed text) ∧
    (∀ body rest : List Char, Quoted.IsBody body →
      let spelling := '"' :: (body ++ ['"'])
      ∃ content, Cursor.next ⟨spelling ++ rest, position⟩ =
        (⟨.string content, .ofList spelling, position⟩, ⟨rest, position.afterAll spelling⟩)) ∧
    (∀ text : List Char, ¬ Quoted.IsClosed text →
      let line := '"' :: text.takeWhile (· != '\n')
      Cursor.next ⟨'"' :: text, position⟩ =
        (⟨.flaw .unterminatedString, .ofList line, position⟩,
          ⟨text.dropWhile (· != '\n'), position.afterAll line⟩)) := by
  refine ⟨?_, ?_, ?_, fun text opened => Cursor.next_quote_of_not_isClosed opened position⟩
  · intro content rest spelling
    have found := Cursor.next?_of_reads .nil (Scan.reads_encode content rest) position
    have chars : spelling.toList = Quoted.encode content.toList := String.toList_ofList
    rw [chars]
    exact Cursor.next_of_next?_eq_some found
  · intro text
    constructor
    · rintro ⟨content, isString⟩
      by_cases closed : Quoted.IsClosed text
      · exact closed
      · rw [Cursor.next_quote_of_not_isClosed closed] at isString
        cases isString
    · intro closed
      obtain ⟨literal, found⟩ := Quoted.exists_scan_of_isClosed closed
      rw [Cursor.next_quote, Scan.string, found]
      exact ⟨_, rfl⟩
  · intro body rest isBody spelling
    obtain ⟨content, found⟩ := Quoted.exists_scan_of_isBody isBody rest
    refine ⟨.ofList content, ?_⟩
    show Cursor.next ⟨'"' :: (body ++ ['"'] ++ rest), position⟩ = _
    rw [List.append_assoc, List.singleton_append, Cursor.next_quote, Scan.string, found]

/-- Two backslashes leave the quote behind them to close the literal, and one does not.  Nor does a
backslash at the end of the line bring in the quote on the next one. -/
theorem string_literal_behind_one_backslash_stays_open :
    let body := ['a', '\\', '\\']
    let line := ['b', '\\', '"', '\\']
    let below := ['\n', '"']
    (Quoted.IsBody body ∧ ∃ content, Cursor.next ⟨'"' :: (body ++ ['"']) ++ line, .start⟩ =
      (⟨.string content, "\"a\\\\\"", .start⟩, ⟨line, ⟨5, 1, 6⟩⟩)) ∧
    ¬ Quoted.IsClosed (line ++ below) ∧ Cursor.next ⟨'"' :: (line ++ below), .start⟩ =
      (⟨.flaw .unterminatedString, "\"b\\\"\\", .start⟩, ⟨below, ⟨5, 1, 6⟩⟩) := by
  intro body line below
  obtain ⟨-, -, closed, opened⟩ := string_literals_delimit_themselves .start
  have isBody : Quoted.IsBody body :=
    (Quoted.isBody_singleton (by decide) (by decide) (by decide)).append
      (Quoted.isBody_pair (by decide))
  have isOpen : ¬ Quoted.IsClosed (line ++ below) := Quoted.scan_eq_none_iff.mp rfl
  exact ⟨⟨isBody, closed body line isBody⟩, isOpen, opened (line ++ below) isOpen⟩

end ActiveRules
