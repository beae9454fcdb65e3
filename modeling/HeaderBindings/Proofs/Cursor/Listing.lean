import HeaderBindings.Cursor

/-!
# All cursors of a tree

The cursors of a tree in a list: each one in front of those below it. There are as many as the tree
has (`Cursor.length_all`), none of them is higher than the tree (`Cursor.height_le_of_mem_all`), and
whatever an identifier leads to is one of them (`CursorTree.mem_all_of_find?`).

A cursor has two lists of cursors below it, its parameters and its children, and both belong to the
tree. Functions on trees are defined by mutual recursion with functions on lists; their equations
(`all_eq`, `size_eq`, `height_eq`) state them in terms of the two lists. Proofs use one induction
principle for all of them (`Cursor.tree_ind`), in which there is a hypothesis for each parameter and
for each child.

That the list is complete is what makes finite measures out of trees. Walks that follow identifiers
may leave the part of the tree in which they are, but they never leave the tree, so the cursors that
they meet are among the listed ones, and so are the USRs of these.
-/

namespace HeaderBindings

namespace Cursor

mutual

/-- A cursor and all cursors below it. -/
def all : Cursor → List Cursor
  | c@{ params, children, .. } => c :: (allOf params ++ allOf children)

def allOf : List Cursor → List Cursor
  | [] => []
  | c :: rest => all c ++ allOf rest

end

theorem all_eq (c : Cursor) : c.all = c :: (allOf c.params ++ allOf c.children) := by
  cases c
  rw [all]

theorem size_eq (c : Cursor) : c.size = sizeOfAll c.params + sizeOfAll c.children + 1 := by
  cases c
  rw [size]

theorem height_eq (c : Cursor) :
    c.height = max (heightOfAll c.params) (heightOfAll c.children) + 1 := by
  cases c
  rw [height]

variable {c d : Cursor}

theorem height_le_heightOfAll {cs : List Cursor} (h : d ∈ cs) : d.height ≤ heightOfAll cs := by
  induction cs with
  | nil => cases h
  | cons c rest ih =>
    rw [heightOfAll]
    rcases List.mem_cons.1 h with rfl | h
    · exact Nat.le_max_left _ _
    · exact Nat.le_trans (ih h) (Nat.le_max_right _ _)

theorem height_lt_of_mem_params (h : d ∈ c.params) : d.height < c.height := by
  have hle := height_le_heightOfAll h
  rw [height_eq c]
  omega

theorem height_lt_of_mem_children (h : d ∈ c.children) : d.height < c.height := by
  have hle := height_le_heightOfAll h
  rw [height_eq c]
  omega

/-- **Induction on trees**: what holds of a cursor if it holds of those directly below it, holds of
all cursors. -/
theorem tree_ind {motive : Cursor → Prop}
    (step : ∀ c, (∀ d ∈ c.params, motive d) → (∀ d ∈ c.children, motive d) → motive c) :
    ∀ c, motive c := by
  intro c
  induction hk : c.height using Nat.strongRecOn generalizing c with
  | ind k ih =>
    apply step c
    · intro d hd
      exact ih d.height (hk ▸ height_lt_of_mem_params hd) d rfl
    · intro d hd
      exact ih d.height (hk ▸ height_lt_of_mem_children hd) d rfl

theorem mem_allOf_iff {cs : List Cursor} : d ∈ allOf cs ↔ ∃ c ∈ cs, d ∈ c.all := by
  induction cs with
  | nil => simp [allOf]
  | cons c rest ih => simp [allOf, ih]

/-- A cursor of a tree is the root, or one of a tree directly below it. -/
theorem mem_all_iff :
    d ∈ c.all ↔ d = c ∨ (∃ e ∈ c.params, d ∈ e.all) ∨ ∃ e ∈ c.children, d ∈ e.all := by
  rw [all_eq, List.mem_cons, List.mem_append, mem_allOf_iff, mem_allOf_iff]

theorem mem_all_self (c : Cursor) : c ∈ c.all := mem_all_iff.2 (.inl rfl)

theorem length_allOf {cs : List Cursor} (h : ∀ c ∈ cs, c.all.length = c.size) :
    (allOf cs).length = sizeOfAll cs := by
  induction cs with
  | nil => rfl
  | cons c rest ih =>
    have hrest := ih fun d hd => h d (List.mem_cons_of_mem c hd)
    rw [allOf, sizeOfAll, List.length_append, h c List.mem_cons_self, hrest]

/-- **The list has as many cursors as the tree.** -/
theorem length_all (c : Cursor) : c.all.length = c.size := by
  induction c using tree_ind with
  | step c hparams hchildren =>
    rw [all_eq, size_eq, List.length_cons, List.length_append, length_allOf hparams,
      length_allOf hchildren]

/-- **No cursor of a tree is higher than the tree.** -/
theorem height_le_of_mem_all (h : d ∈ c.all) : d.height ≤ c.height := by
  induction c using tree_ind with
  | step c hparams hchildren =>
    rcases mem_all_iff.1 h with rfl | ⟨e, he, h⟩ | ⟨e, he, h⟩
    · exact Nat.le_refl _
    · exact Nat.le_trans (hparams e he h) (Nat.le_of_lt (height_lt_of_mem_params he))
    · exact Nat.le_trans (hchildren e he h) (Nat.le_of_lt (height_lt_of_mem_children he))

/-- What is directly below a cursor of the tree is in the tree. -/
theorem mem_all_of_mem_children {e : Cursor} (h : d ∈ c.all) (he : e ∈ d.children) : e ∈ c.all := by
  induction c using tree_ind with
  | step c hparams hchildren =>
    apply mem_all_iff.2
    rcases mem_all_iff.1 h with rfl | ⟨f, hf, h⟩ | ⟨f, hf, h⟩
    · exact .inr (.inr ⟨e, he, mem_all_self e⟩)
    · exact .inr (.inl ⟨f, hf, hparams f hf h⟩)
    · exact .inr (.inr ⟨f, hf, hchildren f hf h⟩)

end Cursor

namespace CursorTree

/-! ### What identifiers lead to -/

variable {id : String}

theorem findBelow_eq (above : List Cursor) (c : Cursor) :
    findBelow id above c =
      if c.id? = some id then some ⟨c, above⟩
      else (findAmong id (c :: above) c.params).or (findAmong id (c :: above) c.children) := by
  cases c
  rw [findBelow]

theorem exists_of_findAmong {above cs : List Cursor} {site : CursorSite}
    (h : findAmong id above cs = some site) : ∃ c ∈ cs, findBelow id above c = some site := by
  induction cs with
  | nil =>
    rw [findAmong] at h
    cases h
  | cons c rest ih =>
    rw [findAmong] at h
    rcases Option.or_eq_some_iff.1 h with h | ⟨-, h⟩
    · exact ⟨c, List.mem_cons_self, h⟩
    · obtain ⟨d, hd, hfound⟩ := ih h
      exact ⟨d, List.mem_cons_of_mem c hd, hfound⟩

theorem mem_all_of_findBelow {above : List Cursor} {c : Cursor} {site : CursorSite}
    (h : findBelow id above c = some site) : site.cursor ∈ c.all := by
  induction c using Cursor.tree_ind generalizing above with
  | step c hparams hchildren =>
    rw [findBelow_eq] at h
    split at h
    · cases h
      exact Cursor.mem_all_self c
    · apply Cursor.mem_all_iff.2
      rcases Option.or_eq_some_iff.1 h with h | ⟨-, h⟩
      · obtain ⟨d, hd, hfound⟩ := exists_of_findAmong h
        exact .inr (.inl ⟨d, hd, hparams d hd hfound⟩)
      · obtain ⟨d, hd, hfound⟩ := exists_of_findAmong h
        exact .inr (.inr ⟨d, hd, hchildren d hd hfound⟩)

variable {t : CursorTree}

/-- **An identifier leads to a cursor of the tree.** -/
theorem mem_all_of_find? {site : CursorSite} (h : t.find? id = some site) :
    site.cursor ∈ t.root.all :=
  mem_all_of_findBelow h

/-- A type refers to a cursor of the tree, unless its declaration is missing. -/
theorem decl_mem_all_or (t : CursorTree) (id? : Option String) :
    t.decl id? ∈ t.root.all ∨ t.decl id? = .none := by
  unfold decl declSite
  cases hfound : id?.bind t.find? with
  | none => exact .inr rfl
  | some site =>
    obtain ⟨id, -, hsite⟩ := Option.bind_eq_some_iff.1 hfound
    exact .inl (mem_all_of_find? hsite)

/-- A definition is found by an identifier, or is the cursor itself. -/
theorem definition_mem_all {c : Cursor} (h : c ∈ t.root.all) : t.definition c ∈ t.root.all := by
  unfold definition
  split
  · next id _ =>
    cases hfound : t.find? id with
    | none => exact h
    | some site => exact mem_all_of_find? hfound
  · exact h

end CursorTree

end HeaderBindings
