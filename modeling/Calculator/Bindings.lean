/-!
# Bindings

Bindings give values to names. A name has at most one value: the one that was given last.
-/

namespace Calculator

/-- Values of names; the entry that was given last stands first. -/
structure Bindings where
  entries : List (String × Float)

namespace Bindings

/-- No name has a value. -/
def empty : Bindings := ⟨[]⟩

/-- The value of a name. -/
def get? (b : Bindings) (name : String) : Option Float :=
  b.entries.lookup name

/-- Gives a name a value in place of any former one. -/
def insert (b : Bindings) (name : String) (value : Float) : Bindings :=
  ⟨(name, value) :: b.entries.filter fun entry => entry.1 != name⟩

/-- The bindings of a list of pairs, in which a later pair overrides an earlier one. -/
def ofList (pairs : List (String × Float)) : Bindings :=
  pairs.foldl (fun b pair => b.insert pair.1 pair.2) empty

/-- The pairs of names and values, sorted by name. -/
def toList (b : Bindings) : List (String × Float) :=
  b.entries.mergeSort fun x y => x.1 ≤ y.1

@[simp]
theorem get?_empty (name : String) : empty.get? name = none := rfl

/-- Removing the entries of one name leaves the value of every other name. -/
theorem lookup_filter_ne {name other : String} (h : other ≠ name) (l : List (String × Float)) :
    (l.filter fun entry => entry.1 != name).lookup other = l.lookup other := by
  induction l with
  | nil => rfl
  | cons entry l ih =>
    obtain ⟨key, value⟩ := entry
    by_cases hk : key = name
    · subst hk
      simp [ih, List.lookup_cons, beq_eq_false_iff_ne.mpr h]
    · simp [hk, List.lookup_cons, ih]

/-- Inserting decides the value of the inserted name and of no other. -/
@[simp]
theorem get?_insert (b : Bindings) (name other : String) (value : Float) :
    (b.insert name value).get? other = if other = name then some value else b.get? other := by
  by_cases h : other = name
  · simp [get?, insert, h]
  · simp [get?, insert, h, List.lookup_cons, beq_eq_false_iff_ne.mpr h, lookup_filter_ne h]

end Bindings

end Calculator
