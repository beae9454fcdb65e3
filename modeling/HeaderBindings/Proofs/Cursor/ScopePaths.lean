import HeaderBindings.Proofs.Cursor.Listing
import Mathlib.Data.List.Nodup

/-!
# The scopes around a declaration

The path of scopes leads from a declaration to the one that it belongs to, and on from there, until
it comes to the header or to no declaration at all. A declaration may belong to one that stands
anywhere in the tree, so the path need not go up, and `CursorTree.scopesAbove` bounds its steps. A
path that ends meets no cursor twice, and so there are enough steps for it
(`CursorTree.scopePath_scope`).

The bound needs an argument because semantic parents are links by identifier. In a tree that the
compiler makes they lead outwards, but nothing in the data says so, and a link may lead anywhere,
even around in a circle. `ParentsEnd` is the hypothesis that it does not do the latter, and it is
the only one: a path that ends has a fixed number of steps to go from each of its sites, so no site
is on it twice, and all its sites are among those of the tree. The tree has as many sites as its
root has cursors below it, itself included, and this is what the program allows for.
-/

namespace HeaderBindings.CursorTree

/-- The declarations to which a declaration belongs, directly or not, end at the header or at no
declaration after some others. -/
inductive EndsAfter (t : CursorTree) : Nat → CursorSite → Prop where
  | absent {s} : t.semanticParent? s = none → EndsAfter t 0 s
  | unit {s parent} : t.semanticParent? s = some parent → parent.cursor.kind = .unit →
      EndsAfter t 0 s
  | above {n s parent} : t.semanticParent? s = some parent → parent.cursor.kind ≠ .unit →
      EndsAfter t n parent → EndsAfter t (n + 1) s

/-- The declarations to which a declaration belongs come to an end. -/
def ParentsEnd (t : CursorTree) (s : CursorSite) : Prop := ∃ n, t.EndsAfter n s

/-- The names of the scopes around a declaration, outermost first, however many there are. -/
inductive ScopePath (t : CursorTree) : CursorSite → List String → Prop where
  | absent {s} : t.semanticParent? s = none → ScopePath t s []
  | unit {s parent} : t.semanticParent? s = some parent → parent.cursor.kind = .unit →
      ScopePath t s []
  | within {s parent names} : t.semanticParent? s = some parent → parent.cursor.kind ≠ .unit →
      ScopePath t parent names → ScopePath t s (names ++ (scopeName? parent.cursor).toList)

/-! ### All sites of a tree

A site is a cursor with the cursors above it, since the lexical parent of a cursor is not part of
the cursor. Sites are listed in the order of the tree, those of parameters before those of children,
and there are as many as the tree is large.
-/

mutual

/-- A cursor that stands below some others, and all cursors below it, each with those above it. -/
def sitesBelow (above : List Cursor) : Cursor → List CursorSite
  | c@{ params, children, .. } =>
    ⟨c, above⟩ :: (sitesAmong (c :: above) params ++ sitesAmong (c :: above) children)

/-- The sites of some cursors that stand side by side. -/
def sitesAmong (above : List Cursor) : List Cursor → List CursorSite
  | [] => []
  | c :: rest => sitesBelow above c ++ sitesAmong above rest

end

/-- All sites of a tree, that of the root in front. -/
def sites (t : CursorTree) : List CursorSite := sitesBelow [] t.root

variable {t : CursorTree} {above : List Cursor} {c : Cursor} {s site : CursorSite}

theorem sitesBelow_eq (above : List Cursor) (c : Cursor) :
    sitesBelow above c =
      ⟨c, above⟩ :: (sitesAmong (c :: above) c.params ++ sitesAmong (c :: above) c.children) := by
  cases c
  rw [sitesBelow]

theorem mem_sitesAmong_iff {cs : List Cursor} :
    s ∈ sitesAmong above cs ↔ ∃ c ∈ cs, s ∈ sitesBelow above c := by
  induction cs with
  | nil => simp [sitesAmong]
  | cons c rest ih => simp [sitesAmong, ih]

/-- A site of a tree is that of the root, or one of a tree directly below it. -/
theorem mem_sitesBelow_iff :
    s ∈ sitesBelow above c ↔ s = ⟨c, above⟩ ∨
      ∃ d ∈ c.params ++ c.children, s ∈ sitesBelow (c :: above) d := by
  rw [sitesBelow_eq, List.mem_cons, List.mem_append, mem_sitesAmong_iff, mem_sitesAmong_iff]
  simp only [List.mem_append, or_and_right, exists_or]

theorem length_sitesAmong {cs : List Cursor}
    (h : ∀ c ∈ cs, (sitesBelow above c).length = c.size) :
    (sitesAmong above cs).length = Cursor.sizeOfAll cs := by
  induction cs with
  | nil => rfl
  | cons c rest ih =>
    have hrest := ih fun d hd => h d (List.mem_cons_of_mem c hd)
    rw [sitesAmong, Cursor.sizeOfAll, List.length_append, h c List.mem_cons_self, hrest]

theorem length_sitesBelow (above : List Cursor) (c : Cursor) :
    (sitesBelow above c).length = c.size := by
  induction c using Cursor.tree_ind generalizing above with
  | step c hparams hchildren =>
    rw [sitesBelow_eq, Cursor.size_eq, List.length_cons, List.length_append,
      length_sitesAmong fun d hd => hparams d hd _, length_sitesAmong fun d hd => hchildren d hd _]

/-- What is found below a cursor is a site below it. -/
theorem mem_sitesBelow_of_findBelow {id : String} (h : findBelow id above c = some site) :
    site ∈ sitesBelow above c := by
  induction c using Cursor.tree_ind generalizing above with
  | step c hparams hchildren =>
    rw [findBelow_eq] at h
    split at h
    · cases h
      exact mem_sitesBelow_iff.2 (.inl rfl)
    · apply mem_sitesBelow_iff.2
      rcases Option.or_eq_some_iff.1 h with h | ⟨-, h⟩
      · obtain ⟨d, hd, hfound⟩ := exists_of_findAmong h
        exact .inr ⟨d, List.mem_append_left _ hd, hparams d hd hfound⟩
      · obtain ⟨d, hd, hfound⟩ := exists_of_findAmong h
        exact .inr ⟨d, List.mem_append_right _ hd, hchildren d hd hfound⟩

/-- **What an identifier leads to is a site of the tree.** -/
theorem mem_sites_of_find? {id : String} (h : t.find? id = some site) : site ∈ t.sites :=
  mem_sitesBelow_of_findBelow h

/-- Above each site but that of the root there is another site. -/
theorem mem_sitesBelow_of_above {parent : Cursor} {rest : List Cursor}
    (h : s ∈ sitesBelow above c) (habove : s.above = parent :: rest) :
    s = ⟨c, above⟩ ∨ ⟨parent, rest⟩ ∈ sitesBelow above c := by
  induction c using Cursor.tree_ind generalizing above with
  | step c hparams hchildren =>
    rcases mem_sitesBelow_iff.1 h with rfl | ⟨d, hd, hs⟩
    · exact .inl rfl
    · have hbelow : s = ⟨d, c :: above⟩ ∨ ⟨parent, rest⟩ ∈ sitesBelow (c :: above) d := by
        rcases List.mem_append.1 hd with hd | hd
        · exact hparams d hd hs
        · exact hchildren d hd hs
      rcases hbelow with rfl | hparent
      · obtain ⟨rfl, rfl⟩ := List.cons.inj habove
        exact .inr (mem_sitesBelow_iff.2 (.inl rfl))
      · exact .inr (mem_sitesBelow_iff.2 (.inr ⟨d, hd, hparent⟩))

/-- **A declaration of a tree belongs to a declaration of the tree**, or to none. -/
theorem mem_sites_of_semanticParent? {parent : CursorSite} (hs : s ∈ t.sites)
    (h : t.semanticParent? s = some parent) : parent ∈ t.sites := by
  unfold semanticParent? at h
  split at h
  · split at h
    · cases h
    · next c rest habove =>
      cases h
      rcases mem_sitesBelow_of_above hs habove with rfl | hparent
      · cases habove
      · exact hparent
  · cases h
  · exact mem_sites_of_find? h

/-! ### Paths that end

The sites that follow a given one are fixed by it, so the number of steps to the end is a measure of
a site. It goes down by one with each step, and tells the sites of a path apart.
-/

/-- From one site there is one number of steps to the end. -/
theorem EndsAfter.unique {m n : Nat} (h : t.EndsAfter m s) (h' : t.EndsAfter n s) : m = n := by
  induction h generalizing n with
  | absent hnone =>
    cases h' with
    | absent | unit => rfl
    | above hsome => cases hnone.symm.trans hsome
  | unit hsome hkind =>
    cases h' with
    | absent | unit => rfl
    | above hsome' hkind' =>
      cases hsome.symm.trans hsome'
      exact absurd hkind hkind'
  | above hsome hkind _ ih =>
    cases h' with
    | absent hnone => cases hnone.symm.trans hsome
    | unit hsome' hkind' =>
      cases hsome.symm.trans hsome'
      exact absurd hkind' hkind
    | above hsome' _ h' =>
      cases hsome.symm.trans hsome'
      rw [ih h']

/-- The sites on a path differ from each other: the number of those that follow tells them apart. -/
theorem EndsAfter.exists_path {n : Nat} (h : t.EndsAfter n s) (hs : s ∈ t.sites) :
    ∃ path : List CursorSite, path.length = n + 1 ∧ path.Nodup ∧ path ⊆ t.sites ∧
      ∀ x ∈ path, ∃ m ≤ n, t.EndsAfter m x := by
  have hlast : ∀ {s}, t.EndsAfter 0 s → s ∈ t.sites →
      ∃ path : List CursorSite, path.length = 0 + 1 ∧ path.Nodup ∧ path ⊆ t.sites ∧
        ∀ x ∈ path, ∃ m ≤ 0, t.EndsAfter m x := by
    intro s h hs
    refine ⟨[s], rfl, List.nodup_singleton s, ?_, ?_⟩
    · intro x hx
      rw [List.mem_singleton.1 hx]
      exact hs
    · intro x hx
      rw [List.mem_singleton.1 hx]
      exact ⟨0, Nat.le_refl 0, h⟩
  induction h with
  | absent hnone => exact hlast (.absent hnone) hs
  | unit hsome hkind => exact hlast (.unit hsome hkind) hs
  | @above n s parent hsome hkind hparent ih =>
    obtain ⟨path, hlength, hnodup, hsubset, hends⟩ :=
      ih (mem_sites_of_semanticParent? hs hsome)
    refine ⟨s :: path, ?_, List.nodup_cons.2 ⟨?_, hnodup⟩, List.cons_subset.2 ⟨hs, hsubset⟩, ?_⟩
    · rw [List.length_cons, hlength]
    · intro hmem
      obtain ⟨m, hle, hm⟩ := hends s hmem
      have heq := hm.unique (.above hsome hkind hparent)
      omega
    · intro x hx
      rcases List.mem_cons.1 hx with rfl | hx
      · exact ⟨n + 1, Nat.le_refl _, .above hsome hkind hparent⟩
      · obtain ⟨m, hle, hm⟩ := hends x hx
        exact ⟨m, Nat.le_succ_of_le hle, hm⟩

/-- **A path that ends is no longer than the tree is large.** -/
theorem EndsAfter.lt_size {n : Nat} (h : t.EndsAfter n s) (hs : s ∈ t.sites) : n < t.root.size := by
  obtain ⟨path, hlength, hnodup, hsubset, -⟩ := h.exists_path hs
  have hle := hnodup.length_le_of_subset hsubset
  rw [sites, length_sitesBelow] at hle
  omega

/-- With a step for each scope the whole path is found, by induction on the path. -/
theorem EndsAfter.scopePath_scopesAbove {n fuel : Nat} (h : t.EndsAfter n s) (hn : n < fuel) :
    t.ScopePath s (t.scopesAbove fuel s).reverse := by
  induction h generalizing fuel with
  | absent hnone =>
    obtain ⟨fuel, rfl⟩ := Nat.exists_eq_succ_of_ne_zero (Nat.ne_of_gt hn)
    rw [scopesAbove, hnone]
    exact .absent hnone
  | unit hsome hkind =>
    obtain ⟨fuel, rfl⟩ := Nat.exists_eq_succ_of_ne_zero (Nat.ne_of_gt hn)
    rw [scopesAbove, hsome]
    dsimp only
    rw [if_pos hkind]
    exact .unit hsome hkind
  | above hsome hkind _ ih =>
    obtain ⟨fuel, rfl⟩ := Nat.exists_eq_succ_of_ne_zero (Nat.ne_of_gt (Nat.zero_lt_of_lt hn))
    have hpath := ih (Nat.lt_of_succ_lt_succ hn)
    rw [scopesAbove, hsome]
    dsimp only
    rw [if_neg hkind, List.reverse_append]
    have hname : ∀ name? : Option String, name?.toList.reverse = name?.toList := by
      intro name?
      cases name? <;> rfl
    rw [hname]
    exact .within hsome hkind hpath

/-- A site of the tree, or that of no declaration. -/
theorem declSite_mem_sites_or (t : CursorTree) (id? : Option String) :
    t.declSite id? ∈ t.sites ∨ t.declSite id? = ⟨.none, []⟩ := by
  unfold declSite
  cases hfound : id?.bind t.find? with
  | none => exact .inr rfl
  | some site =>
    obtain ⟨id, -, hsite⟩ := Option.bind_eq_some_iff.1 hfound
    exact .inl (mem_sites_of_find? hsite)

/-- **The scope of a declaration is the whole path of the scopes around it**, if that path ends. -/
theorem scopePath_scope {id? : Option String} (h : t.ParentsEnd (t.declSite id?)) :
    t.ScopePath (t.declSite id?) (t.scope (t.declSite id?)) := by
  obtain ⟨n, hn⟩ := h
  rcases t.declSite_mem_sites_or id? with hmem | hnone
  · exact hn.scopePath_scopesAbove (hn.lt_size hmem)
  · -- no declaration belongs to none
    have habsent : t.semanticParent? (t.declSite id?) = none := by
      rw [hnone]
      rfl
    have hpositive : 0 < t.root.size := by
      rw [Cursor.size_eq]
      exact Nat.succ_pos _
    exact (EndsAfter.absent habsent).scopePath_scopesAbove hpositive

end HeaderBindings.CursorTree
