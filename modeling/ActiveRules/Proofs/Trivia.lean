import ActiveRules.Proofs.TokenKinds

/-!
# Blanks and comments

Which texts are trivia depends on what follows them, because a comment has to run up to the end of
its line.  Trivia are split off any text that they stand in front of, and nothing else is.

## Main definitions

* `Trivia.EndsLine`: a text in front of which a line ends.
* `Trivia.MeetsReturn`: a text in which a carriage return stands alone before a line ends.
* `Trivia.Precedes`: blanks and comments in front of a text.

## Main statements

* `Trivia.split_precedes`: what is split off a text are blanks and comments.
* `Trivia.split_append_of_precedes`: blanks and comments in front of a text are split off it.
* `Trivia.split_line_of_blank`, `Trivia.split_line_of_visible`: a line feed behind a text keeps the
  trivia that are split off it.
-/

namespace ActiveRules

section Runs

variable {X : Type} {p : X → Bool} {x : X}

/-- A run of a class ends at an element outside the class as it ends with the list. -/
theorem takeWhile_append_cons_of_neg (outside : p x = false) (front back : List X) :
    (front ++ x :: back).takeWhile p = front.takeWhile p := by
  induction front with
  | nil => rw [List.nil_append, List.takeWhile_cons, outside]; rfl
  | cons y front ih => rw [List.cons_append, List.takeWhile_cons, List.takeWhile_cons, ih]

theorem dropWhile_append_cons_of_neg (outside : p x = false) (front back : List X) :
    (front ++ x :: back).dropWhile p = front.dropWhile p ++ x :: back := by
  induction front with
  | nil => rw [List.nil_append, List.dropWhile_cons, outside]; rfl
  | cons y front ih =>
    rw [List.cons_append, List.dropWhile_cons, List.dropWhile_cons, ih]
    split <;> rfl

/-- What a list does not end in, none of its ends ends in. -/
theorem getLast?_ne_of_append {front back : List X} (ends : (front ++ back).getLast? ≠ some x) :
    back.getLast? ≠ some x := by
  intro last
  rw [List.getLast?_append, last] at ends
  exact ends rfl

end Runs

namespace Trivia

/-- A line ends in front of this text: it is over, or it begins with a line feed or with a carriage
return and a line feed. -/
def EndsLine : List Char → Prop
  | [] => True
  | '\n' :: _ => True
  | '\r' :: '\n' :: _ => True
  | _ => False

/-- The first end of a line that is met in a text is a carriage return that stands alone. -/
def MeetsReturn (text : List Char) : Prop :=
  ∃ line rest, text = line ++ '\r' :: rest ∧ (∀ c ∈ line, c ≠ '\n' ∧ c ≠ '\r') ∧
    ∀ tail, rest ≠ '\n' :: tail

/-- Blanks and comments in front of a text. -/
inductive Precedes : List Char → List Char → Prop where
  | nil {rest : List Char} : Precedes [] rest
  | blank {c : Char} {trivia rest : List Char} (blank : Text.isBlank c = true)
      (others : Precedes trivia rest) : Precedes (c :: trivia) rest
  | comment {body trivia rest : List Char} (inLine : ∀ c ∈ body, c ≠ '\n' ∧ c ≠ '\r')
      (ends : EndsLine (trivia ++ rest)) (others : Precedes trivia rest) :
      Precedes ('#' :: body ++ trivia) rest

/-! ## One comment -/

/-- A comment in front of the end of its line is read as a whole. -/
theorem commentBody?_of_endsLine {body rest : List Char}
    (inLine : ∀ c ∈ body, c ≠ '\n' ∧ c ≠ '\r') (ends : EndsLine rest) :
    commentBody? (body ++ rest) = some (body, rest) := by
  have inside : ∀ c ∈ body, (c != '\n' && c != '\r') = true := by
    intro c member
    simpa using inLine c member
  unfold commentBody?
  rw [List.takeWhile_append_of_pos inside, List.dropWhile_append_of_pos inside]
  unfold EndsLine at ends
  split at ends <;> simp_all

/-- The longest front of a text without the end of a line, and what follows it. -/
theorem exists_line (text : List Char) :
    (∀ c ∈ text.takeWhile (fun c => c != '\n' && c != '\r'), c ≠ '\n' ∧ c ≠ '\r') ∧
      ∀ c ∈ (text.dropWhile fun c => c != '\n' && c != '\r').head?, c = '\n' ∨ c = '\r' := by
  constructor
  · intro c member
    simpa using List.all_eq_true.mp List.all_takeWhile c member
  · intro c ahead
    have outside := List.head?_dropWhile_not (fun c => c != '\n' && c != '\r') text
    rw [ahead] at outside
    exact Decidable.or_iff_not_imp_left.mpr (by simpa using outside)

/-- What is read as a comment runs to the end of its line. -/
theorem endsLine_of_commentBody? {text body rest : List Char}
    (found : commentBody? text = some (body, rest)) :
    (∀ c ∈ body, c ≠ '\n' ∧ c ≠ '\r') ∧ EndsLine rest := by
  obtain ⟨inLine, stops⟩ := exists_line text
  unfold commentBody? at found
  dsimp only at found
  split at found
  · cases found
    exact ⟨inLine, trivial⟩
  · cases found
  · next noPair noReturn =>
    cases found
    refine ⟨inLine, ?_⟩
    generalize text.dropWhile (fun c => c != '\n' && c != '\r') = rest at *
    cases rest with
    | nil => trivial
    | cons c tail =>
      rcases stops c rfl with rfl | rfl
      · trivial
      · exact absurd rfl (noReturn tail)

/-- What is no comment has a carriage return that stands alone. -/
theorem commentBody?_eq_none_iff {text : List Char} :
    commentBody? text = none ↔ MeetsReturn text := by
  constructor
  · intro endless
    have inLine := (exists_line text).1
    have parts := List.takeWhile_append_dropWhile
      (p := fun c => c != '\n' && c != '\r') (l := text)
    unfold commentBody? at endless
    dsimp only at endless
    split at endless
    · cases endless
    · next rest alone ahead => exact ⟨_, rest, by rw [← ahead, parts], inLine, alone⟩
    · cases endless
  · rintro ⟨body, rest, rfl, inLine, alone⟩
    have inside : ∀ c ∈ body, (c != '\n' && c != '\r') = true := by
      intro c member
      simpa using inLine c member
    have ahead : ('\r' :: rest).dropWhile (fun c => c != '\n' && c != '\r') = '\r' :: rest := rfl
    unfold commentBody?
    rw [List.dropWhile_append_of_pos inside, ahead]
    dsimp only
    split
    · next tail same => cases same; exact absurd rfl (alone tail)
    · rfl
    · next noReturn => exact absurd rfl (noReturn rest)

/-! ## Splitting -/

theorem split_comment {text body rest : List Char}
    (found : commentBody? text = some (body, rest)) :
    split ('#' :: text) = ('#' :: body ++ (split rest).1, (split rest).2) := by
  rw [split, if_neg (by decide), if_pos rfl]
  split
  · next endless => rw [found] at endless; cases endless
  · next again => rw [found] at again; cases again; rfl

theorem split_of_commentBody?_eq_none {text : List Char}
    (endless : commentBody? text = none) : split ('#' :: text) = ([], '#' :: text) := by
  rw [split, if_neg (by decide), if_pos rfl]
  split
  · rfl
  · next found => rw [endless] at found; cases found

/-- What is split off a text are blanks and comments. -/
theorem split_precedes (text : List Char) : Precedes (split text).1 (split text).2 := by
  fun_induction split text with
  | case1 => exact .nil
  | case2 c rest blank blanks after found ih =>
    rw [found] at ih
    exact .blank blank ih
  | case3 => exact .nil
  | case4 rest body tail ended trivia after found _ ih =>
    obtain ⟨inLine, ends⟩ := endsLine_of_commentBody? ended
    rw [← split_append tail, found] at ends
    rw [found] at ih
    exact .comment inLine ends ih
  | case5 => exact .nil

/-- Blanks and comments in front of a text are split off it. -/
theorem split_append_of_precedes {trivia rest : List Char} (precedes : Precedes trivia rest) :
    split (trivia ++ rest) = (trivia ++ (split rest).1, (split rest).2) := by
  induction precedes with
  | nil => rfl
  | blank blank _ ih => rw [List.cons_append, split_cons_of_isBlank blank, ih]; rfl
  | comment inLine ends _ ih =>
    have found := commentBody?_of_endsLine inLine ends
    rw [List.cons_append, List.cons_append, List.append_assoc, split_comment found, ih]
    simp

/-- Nothing more is split off what is left of a text. -/
theorem split_split (text : List Char) : split (split text).2 = ([], (split text).2) := by
  have again := split_append_of_precedes (split_precedes text)
  rw [split_append] at again
  have first := congrArg Prod.fst again
  have second := congrArg Prod.snd again
  refine Prod.ext ?_ second.symm
  exact List.self_eq_append_right.mp first

/-! ## A line feed behind a text -/

theorem EndsLine.before_line_feed {text : List Char} (ends : EndsLine text) (more : List Char) :
    EndsLine (text ++ '\n' :: more) := by
  unfold EndsLine at ends
  split at ends
  · trivial
  · trivial
  · trivial
  · exact ends.elim

theorem Precedes.before_line_feed {trivia rest : List Char} (precedes : Precedes trivia rest)
    (more : List Char) : Precedes trivia (rest ++ '\n' :: more) := by
  induction precedes with
  | nil => exact .nil
  | blank blank _ ih => exact .blank blank ih
  | comment inLine ends _ ih =>
    have still := ends.before_line_feed more
    rw [List.append_assoc] at still
    exact .comment inLine still ih

/-- A carriage return that stands alone is not made part of a line end by a line feed behind the
text, unless it is the last character of the text. -/
theorem commentBody?_line_eq_none {text : List Char} (endless : commentBody? text = none)
    (noReturn : text.getLast? ≠ some '\r') (more : List Char) :
    commentBody? (text ++ '\n' :: more) = none := by
  obtain ⟨body, rest, rfl, inLine, alone⟩ := commentBody?_eq_none_iff.mp endless
  refine commentBody?_eq_none_iff.mpr
    ⟨body, rest ++ '\n' :: more, by simp, inLine, ?_⟩
  intro tail same
  cases rest with
  | nil => simp at noReturn
  | cons c rest =>
    cases same
    exact alone rest rfl

/-- The trivia that a text consists of go on behind a line feed. -/
theorem split_line_of_blank {text : List Char} (blank : (split text).2 = []) (more : List Char) :
    split (text ++ '\n' :: more) = (text ++ '\n' :: (split more).1, (split more).2) := by
  have parts := split_append text
  have precedes := split_precedes text
  rw [blank, List.append_nil] at parts
  rw [blank, parts] at precedes
  have still := precedes.before_line_feed more
  rw [List.nil_append] at still
  rw [split_append_of_precedes still, split_cons_of_isBlank rfl]

/-- A text without trivia in front of it has none with a line feed behind it. -/
theorem split_line_of_split {c : Char} {rest : List Char}
    (stands : split (c :: rest) = ([], c :: rest))
    (noReturn : (c :: rest).getLast? ≠ some '\r') (more : List Char) :
    split (c :: (rest ++ '\n' :: more)) = ([], c :: (rest ++ '\n' :: more)) := by
  cases blank : Text.isBlank c with
  | true =>
    rw [split_cons_of_isBlank blank] at stands
    cases stands
  | false =>
    by_cases comment : c = '#'
    · subst comment
      cases found : commentBody? rest with
      | none =>
        have ends : (['#'] ++ rest).getLast? ≠ some '\r' := noReturn
        have lastReturn := getLast?_ne_of_append ends
        exact split_of_commentBody?_eq_none (commentBody?_line_eq_none found lastReturn more)
      | some pair =>
        rw [split_comment found] at stands
        cases stands
    · exact split_cons_of_visible blank comment _

/-- The trivia in front of a visible character are not changed by a line feed behind the text. -/
theorem split_line_of_visible {text rest : List Char} {c : Char}
    (ahead : (split text).2 = c :: rest) (noReturn : text.getLast? ≠ some '\r')
    (more : List Char) :
    split (text ++ '\n' :: more) = ((split text).1, c :: (rest ++ '\n' :: more)) := by
  have parts := split_append text
  have stands := split_split text
  have still := (split_precedes text).before_line_feed more
  rw [ahead] at parts stands still
  have lastReturn : (c :: rest).getLast? ≠ some '\r' := by
    rw [← parts] at noReturn
    exact getLast?_ne_of_append noReturn
  have whole := split_append_of_precedes still
  rw [← List.append_assoc, parts, List.cons_append, split_line_of_split stands lastReturn] at whole
  rw [whole, List.append_nil]

end Trivia

end ActiveRules
