/-!
# Sets of names

A set of names is kept as its names in increasing order, each once.
-/

namespace QuickFill

/-- Put a name in front of the first greater one; a name that is there stays. -/
def insertName (name : String) : List String → List String
  | [] => [name]
  | first :: rest =>
    if name < first then name :: first :: rest
    else if name = first then first :: rest
    else first :: insertName name rest

/-- The names of a list in increasing order, each once. -/
def sortedNames (names : List String) : List String :=
  names.foldl (fun sorted name => insertName name sorted) []

theorem mem_insertName {name other : String} {names : List String} :
    other ∈ insertName name names ↔ other = name ∨ other ∈ names := by
  induction names with
  | nil => simp [insertName]
  | cons first rest ih =>
    unfold insertName
    split
    · simp
    · split
      next same => subst same; simp
      · simp only [List.mem_cons, ih]
        constructor
        · rintro (equal | equal | member)
          · exact .inr (.inl equal)
          · exact .inl equal
          · exact .inr (.inr member)
        · rintro (equal | equal | member)
          · exact .inr (.inl equal)
          · exact .inl equal
          · exact .inr (.inr member)

theorem mem_sortedNames {name : String} {names : List String} :
    name ∈ sortedNames names ↔ name ∈ names := by
  have inserted (sorted : List String) :
      name ∈ names.foldl (fun sorted name => insertName name sorted) sorted ↔
        name ∈ sorted ∨ name ∈ names := by
    induction names generalizing sorted with
    | nil => simp
    | cons first rest ih =>
        rw [List.foldl_cons, ih, mem_insertName, List.mem_cons, or_assoc, or_left_comm]
  rw [sortedNames, inserted]
  simp

end QuickFill
