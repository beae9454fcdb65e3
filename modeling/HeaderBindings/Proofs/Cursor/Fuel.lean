import HeaderBindings.Cursor.Outline

/-!
# Fuel does not change an outline

The fuel of `Outline.inside` only bounds how deep declarations are nested. An outline that is
finished with some fuel is the same with more (`inside_extends_of_le`), so any two finished outlines
of a cursor agree (`ofCursor_agree`).

The functions that outline records, typedefs, cursors and neighbours do not handle fuel themselves.
They are given a function that outlines what a cursor holds, and give no outline where that function
gives none. So each of them is monotone: if the given function is replaced by one that gives the
same outlines and maybe more (`Extends`), then so do they (`ofRecord_extends` and its like, in the
order of the calls). With one more unit of fuel, `inside` is the function for neighbours over
`inside` with the old fuel, and the induction on the fuel needs nothing but that.
-/

namespace HeaderBindings.Outline

/-- `inside'` outlines what a cursor holds as `inside` does, wherever `inside` finishes. -/
def Extends (inside inside' : Seen → Cursor → Result) : Prop :=
  ∀ {seen c result}, inside seen c = some result → inside' seen c = some result

variable {t : CursorTree} {inside₁ inside₂ : Seen → Cursor → Result}

theorem ofRecord_extends (h : Extends inside₁ inside₂) {seen : Seen} {name : String} {c : Cursor}
    {result : List Outline × Seen} (hfirst : ofRecord t inside₁ seen name c = some result) :
    ofRecord t inside₂ seen name c = some result := by
  unfold ofRecord at hfirst ⊢
  split at hfirst
  · exact hfirst
  · obtain ⟨held, hheld, hresult⟩ := Option.bind_eq_some_iff.1 hfirst
    exact Option.bind_eq_some_iff.2 ⟨held, h hheld, hresult⟩

theorem ofTypedef_extends (h : Extends inside₁ inside₂) {seen : Seen} {c : Cursor}
    {result : List Outline × Seen} (hfirst : ofTypedef t inside₁ seen c = some result) :
    ofTypedef t inside₂ seen c = some result := by
  unfold ofTypedef at hfirst ⊢
  split at hfirst
  · obtain ⟨named, hnamed, hresult⟩ := Option.bind_eq_some_iff.1 hfirst
    exact Option.bind_eq_some_iff.2 ⟨named, ofRecord_extends h hnamed, hresult⟩
  · exact hfirst
  · exact hfirst

theorem ofCursor_extends (h : Extends inside₁ inside₂) {seen : Seen} {parent c : Cursor}
    {later : List Cursor} {result : List Outline × Seen}
    (hfirst : ofCursor t inside₁ seen parent c later = some result) :
    ofCursor t inside₂ seen parent c later = some result := by
  unfold ofCursor at hfirst ⊢
  cases hkind : c.kind with
  | scope | linkage =>
    rw [hkind] at hfirst
    obtain ⟨held, hheld, hresult⟩ := Option.bind_eq_some_iff.1 hfirst
    exact Option.bind_eq_some_iff.2 ⟨held, h hheld, hresult⟩
  | typedef =>
    rw [hkind] at hfirst
    exact ofTypedef_extends h hfirst
  | tagged tag =>
    rw [hkind] at hfirst
    cases tag with
    | enum => exact hfirst
    | struct | union | classTag =>
      dsimp only at hfirst ⊢
      by_cases hanonymous : c.isAnonymous
      · rwa [if_pos hanonymous] at hfirst ⊢
      · rw [if_neg hanonymous] at hfirst ⊢
        exact ofRecord_extends h hfirst
  | _ =>
    rw [hkind] at hfirst
    exact hfirst

/-- The outline of neighbours is that of the first one, and then that of the others. -/
theorem ofCursors_cons_eq_some_iff {inside : Seen → Cursor → Result} {parent c : Cursor}
    {later : List Cursor} {seen done : Seen} {outlines : List Outline}
    (hfile : c.location.file.isSome) :
    ofCursors t inside parent seen (c :: later) = some (outlines, done) ↔
      ∃ first next others, ofCursor t inside seen parent c later = some (first, next) ∧
        ofCursors t inside parent next later = some (others, done) ∧
        outlines = first ++ others := by
  have hnone : ¬ c.location.file.isNone := by
    obtain ⟨file, hsome⟩ := Option.isSome_iff_exists.1 hfile
    rw [hsome]
    exact Bool.false_ne_true
  rw [ofCursors, if_neg hnone]
  constructor
  · intro h
    obtain ⟨⟨first, next⟩, hfirst, h⟩ := Option.bind_eq_some_iff.1 h
    obtain ⟨⟨others, last⟩, hothers, h⟩ := Option.bind_eq_some_iff.1 h
    cases h
    exact ⟨first, next, others, hfirst, hothers, rfl⟩
  · rintro ⟨first, next, others, hfirst, hothers, rfl⟩
    exact Option.bind_eq_some_iff.2 ⟨(first, next), hfirst,
      Option.bind_eq_some_iff.2 ⟨(others, done), hothers, rfl⟩⟩

theorem ofCursors_cons_of_no_file {inside : Seen → Cursor → Result} {parent c : Cursor}
    (later : List Cursor) (seen : Seen) (hfile : c.location.file = none) :
    ofCursors t inside parent seen (c :: later) = ofCursors t inside parent seen later := by
  rw [ofCursors, hfile]
  rfl

/-- Neighbours are outlined one after the other, each from what the former ones have seen. -/
theorem ofCursors_extends (h : Extends inside₁ inside₂) {parent : Cursor} {cs : List Cursor}
    {seen : Seen} {result : List Outline × Seen}
    (hfirst : ofCursors t inside₁ parent seen cs = some result) :
    ofCursors t inside₂ parent seen cs = some result := by
  induction cs generalizing seen result with
  | nil => exact hfirst
  | cons c later ih =>
    cases hfile : c.location.file with
    | none =>
      rw [ofCursors_cons_of_no_file later seen hfile] at hfirst ⊢
      exact ih hfirst
    | some file =>
      have hsome : c.location.file.isSome := by rw [hfile]; rfl
      obtain ⟨outlines, done⟩ := result
      obtain ⟨first, next, others, hc, hlater, heq⟩ :=
        (ofCursors_cons_eq_some_iff hsome).1 hfirst
      exact (ofCursors_cons_eq_some_iff hsome).2
        ⟨first, next, others, ofCursor_extends h hc, ih hlater, heq⟩

theorem inside_extends_succ (fuel : Nat) : Extends (inside t fuel) (inside t (fuel + 1)) := by
  -- what a cursor holds is outlined with one unit less on either side
  induction fuel with
  | zero => exact fun h => nomatch h
  | succ fuel ih => exact fun h => ofCursors_extends ih h

/-- **An outline that is finished is the same with more fuel.** -/
theorem inside_extends_of_le {fuel more : Nat} (hle : fuel ≤ more) :
    Extends (inside t fuel) (inside t more) := by
  induction hle with
  | refl => exact id
  | step _ ih => exact fun h => inside_extends_succ _ (ih h)

/-- The outlines of a cursor among its neighbours agree, whatever fuel they are finished with. -/
theorem ofCursor_agree {fuel fuel' : Nat} {seen : Seen} {parent c : Cursor} {later : List Cursor}
    {result result' : List Outline × Seen}
    (h : ofCursor t (inside t fuel) seen parent c later = some result)
    (h' : ofCursor t (inside t fuel') seen parent c later = some result') : result = result' := by
  have hmax := ofCursor_extends (inside_extends_of_le (Nat.le_max_left fuel fuel')) h
  have hmax' := ofCursor_extends (inside_extends_of_le (Nat.le_max_right fuel fuel')) h'
  exact Option.some.inj (hmax.symm.trans hmax')

end HeaderBindings.Outline
