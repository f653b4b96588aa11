/-!
# Sets of signals

A host names the signals that it emits.  Only rules whose trigger is among them can ever fire.

## Main definitions

* `SignalSet`: names in ascending order, each once.
* `SignalSet.insert`, `SignalSet.adding`, `SignalSet.ofList`: building a set.
* `SignalSet.standard`: the signals of a host that configures none.
-/

namespace ActiveRules

/-- A set of names of signals, kept in ascending order of code points. -/
structure SignalSet where
  names : List String
  ascending : names.Pairwise (· < ·)

namespace SignalSet

/-- A name put in its place among ascending names, unless it is there, and whether it is new. -/
def insertName (name : String) : List String → Bool × List String
  | [] => (true, [name])
  | first :: rest =>
    if name < first then (true, name :: first :: rest)
    else if name = first then (false, first :: rest)
    else
      let later := insertName name rest
      (later.1, first :: later.2)

theorem mem_insertName {name other : String} {names : List String} :
    other ∈ (insertName name names).2 ↔ other = name ∨ other ∈ names := by
  induction names with
  | nil => simp [insertName]
  | cons first rest ih =>
    unfold insertName
    split
    · simp
    · split
      · next same => simp [same]
      · simp [ih, or_left_comm]

/-- A name is put where the names still ascend. -/
theorem pairwise_insertName {name : String} {names : List String}
    (ascending : names.Pairwise (· < ·)) : (insertName name names).2.Pairwise (· < ·) := by
  induction names with
  | nil => simp [insertName]
  | cons first rest ih =>
    obtain ⟨below, later⟩ := List.pairwise_cons.mp ascending
    unfold insertName
    split
    · next before =>
      refine List.pairwise_cons.mpr ⟨fun other member => ?_, ascending⟩
      rcases List.mem_cons.mp member with rfl | member
      · exact before
      · exact String.lt_trans before (below other member)
    · split
      · exact ascending
      · next notBefore different =>
        refine List.pairwise_cons.mpr ⟨fun other member => ?_, ih later⟩
        rcases mem_insertName.mp member with rfl | member
        · exact Std.lt_of_le_of_ne (String.not_lt.mp notBefore) (Ne.symm different)
        · exact below other member

/-- A name is new unless it was among the names. -/
theorem insertName_isNew_iff {name : String} {names : List String}
    (ascending : names.Pairwise (· < ·)) :
    (insertName name names).1 = true ↔ name ∉ names := by
  induction names with
  | nil => simp [insertName]
  | cons first rest ih =>
    obtain ⟨below, later⟩ := List.pairwise_cons.mp ascending
    unfold insertName
    split
    · next before =>
      -- The name is below all others, as they ascend.
      have absent : name ∉ rest := fun member =>
        String.lt_irrefl name (String.lt_trans before (below name member))
      have different : name ≠ first := fun same => String.lt_irrefl first (same ▸ before)
      simp [absent, different]
    · split
      · next same => simp [same]
      · next different => simp [ih later, different]

/-- No signal at all. -/
def empty : SignalSet := ⟨[], .nil⟩

/-- Inserts a name: whether it is new, and the set with it. -/
def insert (signals : SignalSet) (name : String) : Bool × SignalSet :=
  let inserted := insertName name signals.names
  (inserted.1, ⟨inserted.2, pairwise_insertName signals.ascending⟩)

/-- The set with one more name. -/
def adding (signals : SignalSet) (name : String) : SignalSet := (signals.insert name).2

/-- Is a name in the set? -/
def contains (signals : SignalSet) (name : String) : Bool := signals.names.contains name

/-- The set of the names in a list. -/
def ofList (names : List String) : SignalSet := names.foldl adding empty

/-- The signals of a host that configures none, in the order of a view's life. -/
def standardNames : List String := ["created", "maximized", "minimized", "fullscreened"]

/-- The set of the standard signals. -/
def standard : SignalSet := ofList standardNames

/-- A name is new if it was not in the set. -/
theorem insert_isNew (signals : SignalSet) (name : String) :
    (signals.insert name).1 = !signals.contains name := by
  rw [Bool.eq_iff_iff, insert, insertName_isNew_iff signals.ascending]
  simp [contains]

/-- Inserting a name adds that name and nothing else. -/
theorem contains_adding (signals : SignalSet) (name other : String) :
    (signals.adding name).contains other = (other == name || signals.contains other) := by
  rw [Bool.eq_iff_iff]
  simp [contains, adding, insert, mem_insertName]

end SignalSet

end ActiveRules
