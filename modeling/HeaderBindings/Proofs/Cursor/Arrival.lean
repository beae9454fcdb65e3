import HeaderBindings.Cursor.Lowering
import HeaderBindings.Proofs.Cursor.Fuel
import HeaderBindings.Proofs.Session.Visits

/-!
# Where the outline of a tree arrives

The outline of a tree goes through the cursors of the header and into its namespaces and linkage
blocks. What it makes of a cursor at which it arrives is visited when the header is processed, among
what comes before it and what comes after it (`Reaches.visits`).

The outline of a tree is not made cursor by cursor: the USRs that are done are handed from one
cursor to the next, a typedef behind a tag takes the tag with it, and a namespace is replaced by
what it holds. So what becomes of one cursor of a large tree cannot be read off the cursor alone.
`Reaches` collects what has to be known of the way to it: which USRs are done on arrival, and which
cursors still follow. With these two the outline of the cursor is fixed, and it is the same wherever
in the tree the cursor stands.

Results on whole headers begin here. They say of one kind of cursor what its outline is on arrival
(`ofCursor_enum` for enumerations), and leave the rest of the tree to `Reaches.visits`.
-/

namespace HeaderBindings.Outline

open CursorTree (declAt)

/-- Going through some cursors below a parent, with some USRs done, the outline arrives at the
cursor `c` when the USRs `done` are done; the cursors `later` still follow. -/
inductive Reaches (t : CursorTree) (c : Cursor) (done : Seen) (later : List Cursor) :
    (parent : Cursor) → Seen → List Cursor → Prop where
  | here {parent} : c.location.file.isSome → Reaches t c done later parent done (c :: later)
  /-- It passes over what the compiler adds by itself. -/
  | passed {parent seen d rest} : d.location.file = none →
      Reaches t c done later parent seen rest → Reaches t c done later parent seen (d :: rest)
  /-- It goes on behind a cursor that it has outlined. -/
  | after {parent seen d rest fuel first next} : d.location.file.isSome →
      ofCursor t (inside t fuel) seen parent d rest = some (first, next) →
      Reaches t c done later parent next rest → Reaches t c done later parent seen (d :: rest)
  /-- It enters a namespace or a linkage block. -/
  | within {parent seen d rest} : d.location.file.isSome → d.kind = .scope ∨ d.kind = .linkage →
      Reaches t c done later d seen d.children → Reaches t c done later parent seen (d :: rest)

/-! ### From the outline to the visits

A step over what the compiler adds outlines nothing, a step behind an outlined cursor adds visits in
front, and a step into a namespace or a linkage block adds the visit of the block itself in front of
those of its contents. None of these changes the file in which the visits take place. The amount of
fuel that is left differs from step to step, so the outline of the cursor is asked for at every
amount.
-/

variable {t : CursorTree}

/-- A namespace or a linkage block is outlined by what it holds, which is visited after it. -/
theorem visits_of_entered {d parent : Cursor} {fuel : Nat} {seen next : Seen}
    {rest : List Cursor} {first : List Outline} (hkind : d.kind = .scope ∨ d.kind = .linkage)
    (h : ofCursor t (inside t fuel) seen parent d rest = some (first, next)) (p : Place) :
    ∃ (less : Nat) (inner : List Outline) (opened : Decl) (q : Place),
      ofCursors t (inside t less) d seen d.children = some (inner, next) ∧ q.file = p.file ∧
      p.visits (toDecls t first) = (p, opened) :: q.visits (toDecls t inner) := by
  have hinside : ∃ inner, inside t fuel seen d = some (inner, next) ∧
      ∃ opened : Decl, opened.kind.isEntered ∧ opened.children = toDecls t inner ∧
        toDecls t first = [opened] := by
    rcases hkind with hkind | hkind
    all_goals
      rw [ofCursor, hkind] at h
      obtain ⟨⟨inner, last⟩, hinner, h⟩ := Option.bind_eq_some_iff.1 h
      cases h
      exact ⟨inner, hinner, _, rfl, rfl, rfl⟩
  obtain ⟨inner, hinner, opened, hentered, hchildren, hfirst⟩ := hinside
  cases fuel with
  | zero => cases hinner
  | succ less =>
    refine ⟨less, inner, opened, p.inside opened.kind, hinner, p.inside_file _, ?_⟩
    rw [hfirst, Place.visits, Place.visits, List.append_nil, p.visitsOf_of_isEntered hentered,
      hchildren]

/-- **What an outline makes of a cursor at which it arrives is visited**, in the header that is
processed, between what is visited before and after it. -/
theorem Reaches.visits {c parent : Cursor} {done seen : Seen} {later cs : List Cursor}
    {own : List Outline} (h : Reaches t c done later parent seen cs)
    (hown : ∀ fuel parent, ∃ next,
      ofCursor t (inside t fuel) done parent c later = some (own, next))
    {fuel : Nat} {outlines : List Outline} {last : Seen}
    (houtlines : ofCursors t (inside t fuel) parent seen cs = some (outlines, last)) (p : Place) :
    ∃ (q : Place) (before after : List (Place × Decl)), q.file = p.file ∧
      p.visits (toDecls t outlines) = before ++ q.visits (toDecls t own) ++ after := by
  induction h generalizing fuel outlines last p with
  | @here parent hfile =>
    obtain ⟨first, next, others, hfirst, -, rfl⟩ := (ofCursors_cons_eq_some_iff hfile).1 houtlines
    obtain ⟨next', hown⟩ := hown fuel parent
    obtain ⟨rfl, -⟩ := Prod.mk.inj (Option.some.inj (hown.symm.trans hfirst))
    refine ⟨p, [], p.visits (toDecls t others), rfl, ?_⟩
    rw [toDecls_append, Place.visits_append]
    rfl
  | passed hfile _ ih =>
    rw [ofCursors_cons_of_no_file _ _ hfile] at houtlines
    exact ih houtlines p
  | after hfile hpassed _ ih =>
    obtain ⟨first, next, others, hfirst, hothers, rfl⟩ :=
      (ofCursors_cons_eq_some_iff hfile).1 houtlines
    obtain ⟨-, rfl⟩ := Prod.mk.inj (ofCursor_agree hpassed hfirst)
    obtain ⟨q, before, after, hq, hvisits⟩ := ih hothers p
    refine ⟨q, p.visits (toDecls t first) ++ before, after, hq, ?_⟩
    rw [toDecls_append, Place.visits_append, hvisits]
    simp only [List.append_assoc]
  | within hfile hkind _ ih =>
    obtain ⟨first, next, others, hfirst, -, rfl⟩ := (ofCursors_cons_eq_some_iff hfile).1 houtlines
    obtain ⟨less, inner, opened, q, hinner, hq, hopened⟩ := visits_of_entered hkind hfirst p
    obtain ⟨r, before, after, hr, hvisits⟩ := ih hinner q
    refine ⟨r, (p, opened) :: before, after ++ p.visits (toDecls t others), hr.trans hq, ?_⟩
    rw [toDecls_append, Place.visits_append, hopened, hvisits]
    simp only [List.append_assoc, List.cons_append]

/-- The declarations of a tree are those of an outline of its cursors, with nothing done
at first. -/
theorem exists_of_decls? {decls : List Decl} (h : t.decls? = some decls) :
    ∃ fuel outlines last,
      ofCursors t (inside t fuel) t.root [] t.root.children = some (outlines, last) ∧
      decls = toDecls t outlines := by
  obtain ⟨outlines, htree, rfl⟩ := Option.map_eq_some_iff.1 h
  obtain ⟨⟨outlines, last⟩, hinside, rfl⟩ := Option.map_eq_some_iff.1 htree
  have hpositive : fuel t ≠ 0 := by
    intro hzero
    rw [hzero] at hinside
    cases hinside
  obtain ⟨less, hless⟩ := Nat.exists_eq_succ_of_ne_zero hpositive
  rw [hless] at hinside
  exact ⟨less, outlines, last, hinside, rfl⟩

/-! ### Enumerations

An enumeration is outlined under its own name, unless it is anonymous and the typedef behind it
lends it one, or its USR is done because it was outlined before. Both exceptions are hypotheses
here, since an outline elsewhere is no outline on its own.
-/

/-- The name under which an enumeration is outlined on its own. -/
def enumName (c : Cursor) : Option String := if c.isAnonymous then none else some c.spelling

/-- The declaration of an enumeration. -/
def enumDecl (c : Cursor) : Decl := declAt c (.enum (enumName c) (CursorTree.enumerators c)) []

/-- A new enumeration that no typedef names is outlined under its own name. -/
theorem ofCursor_enum {c : Cursor} {done : Seen} {later : List Cursor}
    (hkind : c.kind = .tagged .enum) (hnew : c.usr = "" ∨ c.usr ∉ done)
    (hnamed : ¬ (c.isAnonymous ∧ isNamedIn c later)) (fuel : Nat) (parent : Cursor) :
    ∃ next,
      ofCursor t (inside t fuel) done parent c later = some ([.enum (enumName c) c], next) := by
  have hmark : ∃ next, mark? done c = some next := by
    unfold mark?
    by_cases husr : c.usr = ""
    · exact ⟨done, if_pos husr⟩
    · have hfresh := hnew.resolve_left husr
      rw [if_neg husr, if_neg hfresh]
      exact ⟨_, rfl⟩
  obtain ⟨next, hnext⟩ := hmark
  refine ⟨next, ?_⟩
  rw [ofCursor, hkind]
  dsimp only
  by_cases hanonymous : c.isAnonymous
  · have hfree : ¬ isNamedIn c later := fun hin => hnamed ⟨hanonymous, hin⟩
    rw [enumName, if_pos hanonymous, hanonymous, if_neg (by decide), if_neg hfree, ofEnum, hnext]
  · rw [enumName, if_neg hanonymous, Bool.eq_false_iff.2 hanonymous, if_pos (by decide), ofEnum,
      hnext]

/-- **An enumeration at which the outline of a tree arrives is visited** in the header that is
processed. -/
theorem Reaches.visits_enumDecl {c : Cursor} {done : Seen} {later : List Cursor}
    {decls : List Decl} (h : Reaches t c done later t.root [] t.root.children)
    (hdecls : t.decls? = some decls) (hkind : c.kind = .tagged .enum)
    (hnew : c.usr = "" ∨ c.usr ∉ done) (hnamed : ¬ (c.isAnonymous ∧ isNamedIn c later))
    (path : String) :
    ∃ (q : Place) (before after : List (Place × Decl)), q.file = path ∧
      HeaderUnit.visits ⟨path, decls⟩ = before ++ (q, enumDecl c) :: after := by
  obtain ⟨fuel, outlines, last, houtlines, rfl⟩ := exists_of_decls? hdecls
  obtain ⟨q, before, after, hq, hvisits⟩ :=
    h.visits (ofCursor_enum hkind hnew hnamed) houtlines ⟨path, []⟩
  have hentered : ¬ (enumDecl c).kind.isEntered := Bool.false_ne_true
  have hown : q.visits (toDecls t [.enum (enumName c) c]) = [(q, enumDecl c)] := by
    rw [toDecls, toDecls, Place.visits, Place.visits, List.append_nil]
    exact q.visitsOf_of_not_isEntered hentered
  refine ⟨q, before, after, hq, ?_⟩
  rw [hown, List.append_assoc] at hvisits
  exact hvisits

end HeaderBindings.Outline
