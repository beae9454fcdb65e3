import HeaderBindings.OrderedMap

/-!
# Distinct names

A counter hands out names that differ from each other and from those reserved before. A name that is
taken gets a suffix: `Foo`, `Foo__1`, `Foo__2`. The counts only say where the search for a free
suffix starts.
-/

namespace HeaderBindings

/-- How often names were claimed, and the names that are taken. -/
structure NameCounter where
  counts : OrderedMap String Nat := ∅
  taken : List String := []

namespace NameCounter

/-- The `n`-th form of a name: the name itself, then the name with a suffix. -/
def form (name : String) : Nat → String
  | 0 => name
  | n + 1 => name ++ "__" ++ (n + 1).repr

/-- The first number from `n` on whose form of `name` is not in `taken`. The forms differ from each
other, so as many attempts as there are taken names suffice to pass them all. -/
def firstFree (taken : List String) (name : String) : Nat → Nat → Nat
  | 0, n => n
  | attempts + 1, n =>
    if form name n ∈ taken then firstFree taken name attempts (n + 1) else n

/-- How many forms of a name were passed by claims. -/
def count (c : NameCounter) (name : String) : Nat := (c.counts.get? name).getD 0

/-- Marks a name as taken without counting it. -/
def reserve (c : NameCounter) (name : String) : NameCounter :=
  { c with taken := if name ∈ c.taken then c.taken else name :: c.taken }

theorem mem_taken_reserve {c : NameCounter} {name other : String} :
    other ∈ (c.reserve name).taken ↔ other = name ∨ other ∈ c.taken := by
  by_cases h : name ∈ c.taken
  · simp only [reserve, h, if_true]
    exact ⟨Or.inr, fun o => o.elim (· ▸ h) id⟩
  · simp [reserve, h]

/-- The first free form of a name, which is taken from then on. -/
def claim (c : NameCounter) (name : String) : String × NameCounter :=
  let n := firstFree c.taken name c.taken.length (c.count name)
  (form name n, { counts := c.counts.insert name (n + 1), taken := form name n :: c.taken })

end NameCounter

end HeaderBindings
