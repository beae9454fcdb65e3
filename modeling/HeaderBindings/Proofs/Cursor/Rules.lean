import HeaderBindings.Proofs.Cursor.Fuel

/-!
# The rules of outlines

The functions that outline a tree carry fuel, because they leave the tree where a record is defined
elsewhere. `Outlined` says what they do without it, one rule for each branch, so that a derivation
is the finite tree of the calls of an outline that is finished. A subject is outlined by a
derivation if and only if the functions outline it with some fuel (`outlined_iff`), and therefore in
one way at most (`Outlined.unique`).

## Both directions

* From the functions to the rules. Let what cursors hold be outlined by the rules wherever some
  function `inside` gives an outline (`Follows`). Then so are records, typedefs, single cursors and
  neighbours, because each of the functions for these calls `inside` for what is further down. As
  `inside` with one more unit of fuel is the function for neighbours, the induction on the fuel is
  one line (`follows_inside`).
* From the rules to the functions. By induction on a derivation, the functions give the outlines of
  its conclusion with some fuel (`Outlined.exists_fuel`). A rule with one premise takes the fuel of
  that premise, and only a rule that looks into a cursor takes one unit more. The rule for
  neighbours has two premises; both are computed with the larger of their fuels, since fuel that is
  left over changes nothing (`Computes.extends`).

What a function gives in each of its branches is stated once, in front of both directions
(`ofEnum_of_done` and the lemmas that follow it). A result of a function is taken apart, and a rule
is proved to be computed, by naming the branch.
-/

namespace HeaderBindings.Outline

/-- What is outlined: neighbouring cursors below a parent, one of them in front of others, or a
record or an enumeration under a given name. -/
inductive Subject where
  | neighbours (parent : Cursor) (cs : List Cursor)
  | cursor (parent c : Cursor) (later : List Cursor)
  | record (name : String) (c : Cursor)
  | enum (name : Option String) (c : Cursor)

/-- What a cursor holds. -/
abbrev Subject.inside (c : Cursor) : Subject := .neighbours c c.children

/-- From the USRs `seen`, a subject is outlined by the given outlines, which lead to the USRs
`done`. -/
inductive Outlined (t : CursorTree) : Subject → Seen → List Outline → Seen → Prop where
  | nil {parent seen} : Outlined t (.neighbours parent []) seen [] seen
  /-- What the compiler adds by itself is passed over. -/
  | passed {parent c later seen outlines done} : c.location.file = none →
      Outlined t (.neighbours parent later) seen outlines done →
      Outlined t (.neighbours parent (c :: later)) seen outlines done
  | cons {parent c later seen first mid others done} : c.location.file.isSome →
      Outlined t (.cursor parent c later) seen first mid →
      Outlined t (.neighbours parent later) mid others done →
      Outlined t (.neighbours parent (c :: later)) seen (first ++ others) done
  | scope {parent c later seen inner done} : c.kind = .scope →
      Outlined t (.inside c) seen inner done →
      Outlined t (.cursor parent c later) seen [.scope c inner] done
  | linkage {parent c later seen inner done} : c.kind = .linkage →
      Outlined t (.inside c) seen inner done →
      Outlined t (.cursor parent c later) seen [.linkage c inner] done
  /-- A record without a name waits for a typedef. -/
  | unnamedRecord {parent c later seen tag} : c.kind = .tagged tag → tag ≠ .enum →
      c.isAnonymous → Outlined t (.cursor parent c later) seen [] seen
  | namedRecord {parent c later seen tag outlines done} : c.kind = .tagged tag → tag ≠ .enum →
      ¬ c.isAnonymous → Outlined t (.record c.spelling c) seen outlines done →
      Outlined t (.cursor parent c later) seen outlines done
  | namedEnum {parent c later seen outlines done} : c.kind = .tagged .enum → ¬ c.isAnonymous →
      Outlined t (.enum (some c.spelling) c) seen outlines done →
      Outlined t (.cursor parent c later) seen outlines done
  /-- An enumeration without a name waits for the typedef that names it. -/
  | waitingEnum {parent c later seen} : c.kind = .tagged .enum → c.isAnonymous →
      isNamedIn c later → Outlined t (.cursor parent c later) seen [] seen
  | unnamedEnum {parent c later seen outlines done} : c.kind = .tagged .enum → c.isAnonymous →
      ¬ isNamedIn c later → Outlined t (.enum none c) seen outlines done →
      Outlined t (.cursor parent c later) seen outlines done
  | function {parent c later seen kind} : c.kind = .function kind → isInPlace parent c →
      Outlined t (.cursor parent c later) seen [.function kind c] seen
  | outOfPlace {parent c later seen kind} : c.kind = .function kind → ¬ isInPlace parent c →
      Outlined t (.cursor parent c later) seen [] seen
  | typedefRecord {parent c later seen decl named done} : c.kind = .typedef →
      c.underlying.stripped = .record decl →
      Outlined t (.record (nameBehind c (t.decl decl)) (t.decl decl)) seen named done →
      Outlined t (.cursor parent c later) seen (withTypedef c (t.decl decl) named) done
  | typedefEnum {parent c later seen decl named done} : c.kind = .typedef →
      c.underlying.stripped = .enum decl →
      Outlined t (.enum (some (nameBehind c (t.decl decl))) (t.decl decl)) seen named done →
      Outlined t (.cursor parent c later) seen (withTypedef c (t.decl decl) named) done
  | typedef {parent c later seen} : c.kind = .typedef →
      (∀ decl, c.underlying.stripped ≠ .record decl) →
      (∀ decl, c.underlying.stripped ≠ .enum decl) →
      Outlined t (.cursor parent c later) seen [.typedef c] seen
  /-- Fields and labels belong to the record that they stand in. -/
  | part {parent c later seen} : c.kind = .field ∨ c.kind = .accessLabel →
      Outlined t (.cursor parent c later) seen [] seen
  | unknown {parent c later seen} :
      c.kind = .enumerator ∨ c.kind = .unit ∨ (∃ name, c.kind = .other name) →
      Outlined t (.cursor parent c later) seen [.unknown c] seen
  | doneRecord {name c seen} : mark? seen c = none → Outlined t (.record name c) seen [] seen
  /-- A record is marked, and then the members of its definition are outlined. -/
  | newRecord {name c seen mid inner done} : mark? seen c = some mid →
      Outlined t (.inside (t.definition c)) mid inner done →
      Outlined t (.record name c) seen [.record name c (t.definition c) inner] done
  | doneEnum {name c seen} : mark? seen c = none → Outlined t (.enum name c) seen [] seen
  | newEnum {name c seen done} : mark? seen c = some done →
      Outlined t (.enum name c) seen [.enum name c] done

variable {t : CursorTree} {seen done : Seen} {outlines : List Outline} {c : Cursor}

variable {inside : Seen → Cursor → Result}

/-! ### The functions, branch by branch

The kind of a cursor decides on the branch. Where a branch asks further, the condition is kept as an
`if`, and the rules that lead to the branch decide it. The branches for typedefs are stated beside
the function itself (`ofTypedef_of_record` and its neighbours).
-/

theorem ofEnum_of_done (h : mark? seen c = none) (name : Option String) :
    ofEnum seen name c = ([], seen) := by
  rw [ofEnum, h]

theorem ofEnum_of_new (h : mark? seen c = some done) (name : Option String) :
    ofEnum seen name c = ([.enum name c], done) := by
  rw [ofEnum, h]

theorem ofRecord_of_done (h : mark? seen c = none) (name : String) :
    ofRecord t inside seen name c = some ([], seen) := by
  rw [ofRecord, h]

theorem ofRecord_of_new {mid : Seen} (h : mark? seen c = some mid) (name : String) :
    ofRecord t inside seen name c =
      (inside mid (t.definition c)).map fun r => ([.record name c (t.definition c) r.1], r.2) := by
  rw [ofRecord, h]
  exact Option.map_eq_bind.symm

section

variable {parent : Cursor} {later : List Cursor}

theorem ofCursor_of_scope (hkind : c.kind = .scope) :
    ofCursor t inside seen parent c later =
      (inside seen c).map fun r => ([.scope c r.1], r.2) := by
  rw [ofCursor, hkind]
  exact Option.map_eq_bind.symm

theorem ofCursor_of_linkage (hkind : c.kind = .linkage) :
    ofCursor t inside seen parent c later =
      (inside seen c).map fun r => ([.linkage c r.1], r.2) := by
  rw [ofCursor, hkind]
  exact Option.map_eq_bind.symm

theorem ofCursor_of_record {tag : Tag} (hkind : c.kind = .tagged tag) (htag : tag ≠ .enum) :
    ofCursor t inside seen parent c later =
      if c.isAnonymous then some ([], seen) else ofRecord t inside seen c.spelling c := by
  rw [ofCursor, hkind]
  cases tag with
  | enum => exact absurd rfl htag
  | struct | union | classTag => rfl

theorem ofCursor_of_namedEnum (hkind : c.kind = .tagged .enum) (hnamed : ¬ c.isAnonymous) :
    ofCursor t inside seen parent c later = some (ofEnum seen (some c.spelling) c) := by
  rw [ofCursor, hkind, Bool.eq_false_iff.2 hnamed]
  rfl

theorem ofCursor_of_unnamedEnum (hkind : c.kind = .tagged .enum) (hnone : c.isAnonymous) :
    ofCursor t inside seen parent c later =
      if isNamedIn c later then some ([], seen) else some (ofEnum seen none c) := by
  rw [ofCursor, hkind, hnone]
  rfl

theorem ofCursor_of_function {kind : FunctionKind} (hkind : c.kind = .function kind) :
    ofCursor t inside seen parent c later =
      some (if isInPlace parent c then [.function kind c] else [], seen) := by
  rw [ofCursor, hkind]

theorem ofCursor_of_typedef (hkind : c.kind = .typedef) :
    ofCursor t inside seen parent c later = ofTypedef t inside seen c := by
  rw [ofCursor, hkind]

theorem ofCursor_of_part (hkind : c.kind = .field ∨ c.kind = .accessLabel) :
    ofCursor t inside seen parent c later = some ([], seen) := by
  rcases hkind with hkind | hkind
  · rw [ofCursor, hkind]
  · rw [ofCursor, hkind]

theorem ofCursor_of_unknown
    (hkind : c.kind = .enumerator ∨ c.kind = .unit ∨ ∃ name, c.kind = .other name) :
    ofCursor t inside seen parent c later = some ([.unknown c], seen) := by
  rcases hkind with hkind | hkind | ⟨name, hkind⟩
  · rw [ofCursor, hkind]
  · rw [ofCursor, hkind]
  · rw [ofCursor, hkind]

end

/-! ### What the functions outline is outlined by the rules

The functions are treated in the order in which they call each other, each under the assumption that
`inside` follows the rules. Their cases are their branches, and the rule for a branch has the
conditions of the branch as premises.
-/

/-- What a cursor holds is outlined by the rules, wherever `inside` finishes. -/
def Follows (t : CursorTree) (inside : Seen → Cursor → Result) : Prop :=
  ∀ {seen c outlines done}, inside seen c = some (outlines, done) →
    Outlined t (.inside c) seen outlines done

theorem outlined_of_ofEnum {name : Option String} (h : ofEnum seen name c = (outlines, done)) :
    Outlined t (.enum name c) seen outlines done := by
  cases hmark : mark? seen c with
  | none =>
    rw [ofEnum_of_done hmark] at h
    cases h
    exact .doneEnum hmark
  | some marked =>
    rw [ofEnum_of_new hmark] at h
    cases h
    exact .newEnum hmark

theorem Follows.ofRecord (hinside : Follows t inside) {name : String}
    (h : ofRecord t inside seen name c = some (outlines, done)) :
    Outlined t (.record name c) seen outlines done := by
  cases hmark : mark? seen c with
  | none =>
    rw [ofRecord_of_done hmark] at h
    cases h
    exact .doneRecord hmark
  | some mid =>
    rw [ofRecord_of_new hmark] at h
    obtain ⟨⟨inner, last⟩, hinner, heq⟩ := Option.map_eq_some_iff.1 h
    cases heq
    exact .newRecord hmark (hinside hinner)

section

variable {parent : Cursor} {later : List Cursor}

theorem Follows.ofTypedef (hinside : Follows t inside) (hkind : c.kind = .typedef)
    (h : ofTypedef t inside seen c = some (outlines, done)) :
    Outlined t (.cursor parent c later) seen outlines done := by
  unfold Outline.ofTypedef at h
  split at h
  · next decl hstripped =>
    obtain ⟨⟨named, last⟩, hnamed, h⟩ := Option.bind_eq_some_iff.1 h
    cases h
    exact .typedefRecord hkind hstripped (hinside.ofRecord hnamed)
  · next decl hstripped =>
    cases h
    exact .typedefEnum hkind hstripped (outlined_of_ofEnum rfl)
  · next hrecord henum =>
    cases h
    exact .typedef hkind hrecord henum

/-- A record that stands by itself is outlined under its own name, or waits for a typedef. -/
theorem Follows.ofTaggedRecord (hinside : Follows t inside) {tag : Tag}
    (hkind : c.kind = .tagged tag) (htag : tag ≠ .enum)
    (h : ofCursor t inside seen parent c later = some (outlines, done)) :
    Outlined t (.cursor parent c later) seen outlines done := by
  rw [ofCursor_of_record hkind htag] at h
  split at h
  · next hnone =>
    cases h
    exact .unnamedRecord hkind htag hnone
  · next hnamed => exact .namedRecord hkind htag hnamed (hinside.ofRecord h)

/-- So is an enumeration, which is outlined without a name if no typedef names it. -/
theorem outlined_of_taggedEnum (hkind : c.kind = .tagged .enum)
    (h : ofCursor t inside seen parent c later = some (outlines, done)) :
    Outlined t (.cursor parent c later) seen outlines done := by
  by_cases hnone : c.isAnonymous
  · rw [ofCursor_of_unnamedEnum hkind hnone] at h
    split at h
    · next hin =>
      cases h
      exact .waitingEnum hkind hnone hin
    · next hin => exact .unnamedEnum hkind hnone hin (outlined_of_ofEnum (Option.some.inj h))
  · rw [ofCursor_of_namedEnum hkind hnone] at h
    exact .namedEnum hkind hnone (outlined_of_ofEnum (Option.some.inj h))

theorem outlined_of_part (hkind : c.kind = .field ∨ c.kind = .accessLabel)
    (h : ofCursor t inside seen parent c later = some (outlines, done)) :
    Outlined t (.cursor parent c later) seen outlines done := by
  rw [ofCursor_of_part hkind] at h
  cases h
  exact .part hkind

theorem outlined_of_unknown
    (hkind : c.kind = .enumerator ∨ c.kind = .unit ∨ ∃ name, c.kind = .other name)
    (h : ofCursor t inside seen parent c later = some (outlines, done)) :
    Outlined t (.cursor parent c later) seen outlines done := by
  rw [ofCursor_of_unknown hkind] at h
  cases h
  exact .unknown hkind

/-- **A single cursor is outlined by the rules**, by the kind of the cursor. -/
theorem Follows.ofCursor (hinside : Follows t inside)
    (h : ofCursor t inside seen parent c later = some (outlines, done)) :
    Outlined t (.cursor parent c later) seen outlines done := by
  cases hkind : c.kind with
  | scope =>
    rw [ofCursor_of_scope hkind] at h
    obtain ⟨⟨inner, last⟩, hinner, heq⟩ := Option.map_eq_some_iff.1 h
    cases heq
    exact .scope hkind (hinside hinner)
  | linkage =>
    rw [ofCursor_of_linkage hkind] at h
    obtain ⟨⟨inner, last⟩, hinner, heq⟩ := Option.map_eq_some_iff.1 h
    cases heq
    exact .linkage hkind (hinside hinner)
  | tagged tag =>
    by_cases htag : tag = .enum
    · subst htag
      exact outlined_of_taggedEnum hkind h
    · exact hinside.ofTaggedRecord hkind htag h
  | function kind =>
    rw [ofCursor_of_function hkind] at h
    cases h
    split
    · next hplace => exact .function hkind hplace
    · next hplace => exact .outOfPlace hkind hplace
  | typedef =>
    rw [ofCursor_of_typedef hkind] at h
    exact hinside.ofTypedef hkind h
  | field => exact outlined_of_part (.inl hkind) h
  | accessLabel => exact outlined_of_part (.inr hkind) h
  | enumerator => exact outlined_of_unknown (.inl hkind) h
  | unit => exact outlined_of_unknown (.inr (.inl hkind)) h
  | other name => exact outlined_of_unknown (.inr (.inr ⟨name, hkind⟩)) h

end

theorem Follows.ofCursors (hinside : Follows t inside) {parent : Cursor} {cs : List Cursor}
    (h : ofCursors t inside parent seen cs = some (outlines, done)) :
    Outlined t (.neighbours parent cs) seen outlines done := by
  induction cs generalizing seen outlines done with
  | nil =>
    cases h
    exact .nil
  | cons c later ih =>
    cases hfile : c.location.file with
    | none =>
      rw [ofCursors_cons_of_no_file later seen hfile] at h
      exact .passed hfile (ih h)
    | some file =>
      have hsome : c.location.file.isSome := by rw [hfile]; rfl
      obtain ⟨first, mid, others, hfirst, hothers, rfl⟩ := (ofCursors_cons_eq_some_iff hsome).1 h
      exact .cons hsome (hinside.ofCursor hfirst) (ih hothers)

/-- **What is outlined with some fuel is outlined by the rules**, by induction on the fuel. -/
theorem follows_inside (t : CursorTree) (fuel : Nat) : Follows t (Outline.inside t fuel) := by
  induction fuel with
  | zero => exact fun h => nomatch h
  | succ fuel ih => exact fun h => ih.ofCursors h

/-! ### What the rules outline is outlined with some fuel

A subject stands for a call of one of four functions, and `Computes` says what that call gives.
Records and cursors are outlined under the same `inside`, so that fuel is spent only between a
cursor and the neighbours that it holds.
-/

/-- The functions give these outlines of a subject, if what cursors hold is outlined by `inside`. -/
def Computes (t : CursorTree) (inside : Seen → Cursor → Result) (seen : Seen)
    (result : List Outline × Seen) : Subject → Prop
  | .neighbours parent cs => ofCursors t inside parent seen cs = some result
  | .cursor parent c later => ofCursor t inside seen parent c later = some result
  | .record name c => ofRecord t inside seen name c = some result
  | .enum name c => ofEnum seen name c = result

theorem Computes.extends {inside' : Seen → Cursor → Result} {result : List Outline × Seen}
    {subject : Subject} (h : Computes t inside seen result subject)
    (hmore : Extends inside inside') : Computes t inside' seen result subject := by
  cases subject with
  | neighbours parent cs => exact ofCursors_extends hmore h
  | cursor parent c later => exact ofCursor_extends hmore h
  | record name c => exact ofRecord_extends hmore h
  | enum name c => exact h

/-- A cursor that holds neighbours is outlined with one unit more than they are. -/
theorem inside_of_computes {fuel : Nat}
    (h : Computes t (Outline.inside t fuel) seen (outlines, done) (.inside c)) :
    Outline.inside t (fuel + 1) seen c = some (outlines, done) :=
  h

/-- **What is outlined by the rules is outlined with some fuel**, by induction on the derivation.
Every rule is a branch of one function, and takes the fuel that its premises take; only to look into
a cursor takes more. -/
theorem Outlined.exists_fuel {subject : Subject} (h : Outlined t subject seen outlines done) :
    ∃ fuel, Computes t (Outline.inside t fuel) seen (outlines, done) subject := by
  induction h with
  | nil => exact ⟨0, rfl⟩
  | passed hfile _ ih =>
    obtain ⟨fuel, ih⟩ := ih
    exact ⟨fuel, (ofCursors_cons_of_no_file _ _ hfile).trans ih⟩
  | cons hfile _ _ ihfirst ihothers =>
    obtain ⟨fuel, hfirst⟩ := ihfirst
    obtain ⟨fuel', hothers⟩ := ihothers
    have hleft := hfirst.extends (inside_extends_of_le (Nat.le_max_left fuel fuel'))
    have hright := hothers.extends (inside_extends_of_le (Nat.le_max_right fuel fuel'))
    exact ⟨max fuel fuel', (ofCursors_cons_eq_some_iff hfile).2 ⟨_, _, _, hleft, hright, rfl⟩⟩
  | scope hkind _ ih =>
    obtain ⟨fuel, ih⟩ := ih
    refine ⟨fuel + 1, (ofCursor_of_scope hkind).trans ?_⟩
    exact Option.map_eq_some_iff.2 ⟨_, inside_of_computes ih, rfl⟩
  | linkage hkind _ ih =>
    obtain ⟨fuel, ih⟩ := ih
    refine ⟨fuel + 1, (ofCursor_of_linkage hkind).trans ?_⟩
    exact Option.map_eq_some_iff.2 ⟨_, inside_of_computes ih, rfl⟩
  | unnamedRecord hkind htag hnone =>
    exact ⟨0, (ofCursor_of_record hkind htag).trans (if_pos hnone)⟩
  | namedRecord hkind htag hnamed _ ih =>
    obtain ⟨fuel, ih⟩ := ih
    exact ⟨fuel, (ofCursor_of_record hkind htag).trans ((if_neg hnamed).trans ih)⟩
  | namedEnum hkind hnamed _ ih =>
    obtain ⟨fuel, ih⟩ := ih
    exact ⟨fuel, (ofCursor_of_namedEnum hkind hnamed).trans (congrArg some ih)⟩
  | waitingEnum hkind hnone hin =>
    exact ⟨0, (ofCursor_of_unnamedEnum hkind hnone).trans (if_pos hin)⟩
  | unnamedEnum hkind hnone hin _ ih =>
    obtain ⟨fuel, ih⟩ := ih
    exact ⟨fuel, (ofCursor_of_unnamedEnum hkind hnone).trans
      ((if_neg hin).trans (congrArg some ih))⟩
  | function hkind hplace =>
    refine ⟨0, (ofCursor_of_function hkind).trans ?_⟩
    rw [if_pos hplace]
  | outOfPlace hkind hplace =>
    refine ⟨0, (ofCursor_of_function hkind).trans ?_⟩
    rw [if_neg hplace]
  | typedefRecord hkind hstripped _ ih =>
    obtain ⟨fuel, ih⟩ := ih
    refine ⟨fuel, (ofCursor_of_typedef hkind).trans ((ofTypedef_of_record hstripped).trans ?_)⟩
    exact Option.map_eq_some_iff.2 ⟨_, ih, rfl⟩
  | typedefEnum hkind hstripped _ ih =>
    obtain ⟨fuel, ih⟩ := ih
    refine ⟨fuel, (ofCursor_of_typedef hkind).trans ((ofTypedef_of_enum hstripped).trans ?_)⟩
    exact Option.map_eq_some_iff.2 ⟨_, congrArg some ih, rfl⟩
  | typedef hkind hrecord henum =>
    exact ⟨0, (ofCursor_of_typedef hkind).trans (ofTypedef_of_alias hrecord henum)⟩
  | part hkind => exact ⟨0, ofCursor_of_part hkind⟩
  | unknown hkind => exact ⟨0, ofCursor_of_unknown hkind⟩
  | doneRecord hmark => exact ⟨0, ofRecord_of_done hmark _⟩
  | newRecord hmark _ ih =>
    obtain ⟨fuel, ih⟩ := ih
    refine ⟨fuel + 1, (ofRecord_of_new hmark _).trans ?_⟩
    exact Option.map_eq_some_iff.2 ⟨_, inside_of_computes ih, rfl⟩
  | doneEnum hmark => exact ⟨0, ofEnum_of_done hmark _⟩
  | newEnum hmark => exact ⟨0, ofEnum_of_new hmark _⟩

/-- **A derivation is an outline that is finished.** -/
theorem outlined_iff :
    Outlined t (.inside c) seen outlines done ↔
      ∃ fuel, Outline.inside t fuel seen c = some (outlines, done) := by
  constructor
  · intro h
    obtain ⟨fuel, h⟩ := h.exists_fuel
    exact ⟨fuel + 1, inside_of_computes h⟩
  · rintro ⟨fuel, h⟩
    exact follows_inside t fuel h

/-- **A cursor is outlined in one way at most.** -/
theorem Outlined.unique {outlines' : List Outline} {done' : Seen}
    (h : Outlined t (.inside c) seen outlines done)
    (h' : Outlined t (.inside c) seen outlines' done') : outlines = outlines' ∧ done = done' := by
  obtain ⟨fuel, h⟩ := outlined_iff.1 h
  obtain ⟨fuel', h'⟩ := outlined_iff.1 h'
  have hmax := inside_extends_of_le (Nat.le_max_left fuel fuel') h
  have hmax' := inside_extends_of_le (Nat.le_max_right fuel fuel') h'
  exact Prod.mk.inj (Option.some.inj (hmax.symm.trans hmax'))

end HeaderBindings.Outline
