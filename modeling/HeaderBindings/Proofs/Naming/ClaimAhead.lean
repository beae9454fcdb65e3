import HeaderBindings.Proofs.Naming.SuffixNumbering

/-!
# A counter that is one claim ahead

What a counter hands out depends on its counts and on which names are taken, and not on the order in
which they were taken. So claims of different names do not get in each other's way, and a counter on
which one name was claimed once more stays one claim ahead of the other: it hands out the same forms
of all other names, and later forms of this one.
-/

namespace HeaderBindings.NameCounter

variable {c c' : NameCounter} {name other : String}

/-! ### The number of a claim -/

/-- The number of the form that the next claim of a name gets. -/
def nextNumber (c : NameCounter) (name : String) : Nat :=
  firstFree c.taken name c.taken.length (c.count name)

theorem claim_fst (c : NameCounter) (name : String) :
    (c.claim name).1 = form name (c.nextNumber name) :=
  rfl

theorem count_claim_eq (c : NameCounter) (name other : String) :
    (c.claim name).2.count other =
      if other = name then c.nextNumber name + 1 else c.count other :=
  count_claim c name other

theorem le_firstFree (taken : List String) (name : String) (attempts n : Nat) :
    n ≤ firstFree taken name attempts n := by
  induction attempts generalizing n with
  | zero => exact Nat.le_refl n
  | succ attempts ih =>
    rw [firstFree]
    split
    · exact (Nat.le_succ n).trans (ih (n + 1))
    · exact Nat.le_refl n

/-- **The next claim of a name gets the first free form that has not been counted.** -/
theorem nextNumber_eq_iff {n : Nat} :
    c.nextNumber name = n ↔ c.count name ≤ n ∧ form name n ∉ c.taken ∧
      ∀ i, c.count name ≤ i → i < n → form name i ∈ c.taken := by
  have hle : c.count name ≤ c.nextNumber name := le_firstFree _ _ _ _
  have hfree : form name (c.nextNumber name) ∉ c.taken := claim_not_mem c name
  have hpassed : ∀ i, c.count name ≤ i → i < c.nextNumber name → form name i ∈ c.taken :=
    fun i hi hlt => form_mem_of_lt_firstFree hi hlt
  constructor
  · rintro rfl
    exact ⟨hle, hfree, hpassed⟩
  · rintro ⟨hle', hfree', hpassed'⟩
    rcases Nat.lt_trichotomy (c.nextNumber name) n with hlt | heq | hlt
    · exact absurd (hpassed' _ hle hlt) hfree
    · exact heq
    · exact absurd (hpassed _ hle' hlt) hfree'

theorem nextNumber_spec (c : NameCounter) (name : String) :
    c.count name ≤ c.nextNumber name ∧ form name (c.nextNumber name) ∉ c.taken ∧
      ∀ i, c.count name ≤ i → i < c.nextNumber name → form name i ∈ c.taken :=
  nextNumber_eq_iff.1 rfl

/-! ### Counters that are alike -/

/-- Two counters that have counted the same and on which the same names are taken. -/
structure Alike (c c' : NameCounter) : Prop where
  count : ∀ name, c'.count name = c.count name
  taken : ∀ target, target ∈ c'.taken ↔ target ∈ c.taken

namespace Alike

theorem refl (c : NameCounter) : Alike c c := ⟨fun _ => rfl, fun _ => Iff.rfl⟩

theorem trans {c'' : NameCounter} (h : Alike c c') (h' : Alike c' c'') : Alike c c'' where
  count name := (h'.count name).trans (h.count name)
  taken target := (h'.taken target).trans (h.taken target)

theorem nextNumber_eq (h : Alike c c') (name : String) :
    c'.nextNumber name = c.nextNumber name := by
  have hspec := c.nextNumber_spec name
  simp only [← h.count, ← h.taken] at hspec
  exact nextNumber_eq_iff.2 hspec

/-- **Counters that are alike stay so.** -/
theorem claim (h : Alike c c') (name : String) : Alike (c.claim name).2 (c'.claim name).2 where
  count other := by rw [count_claim_eq, count_claim_eq, h.nextNumber_eq, h.count]
  taken target := by
    rw [taken_claim, taken_claim, claim_fst, claim_fst, h.nextNumber_eq, List.mem_cons,
      List.mem_cons, h.taken]

end Alike

/-! ### Claims of different names -/

/-- A claim of a name does not change what is handed out for another. -/
theorem nextNumber_claim_of_ne (hname : '_' ∉ name.toList) (hother : '_' ∉ other.toList)
    (hne : other ≠ name) : (c.claim name).2.nextNumber other = c.nextNumber other := by
  have htaken : ∀ n, form other n ∈ (c.claim name).2.taken ↔ form other n ∈ c.taken := by
    intro n
    rw [taken_claim, List.mem_cons, claim_fst]
    refine or_iff_right fun heq => ?_
    exact hne (form_inj hother hname heq).1
  rw [nextNumber_eq_iff, count_claim_eq, if_neg hne]
  simp only [htaken]
  exact c.nextNumber_spec other

/-- **Claims of different names commute.** -/
theorem claim_comm (c : NameCounter) (hname : '_' ∉ name.toList) (hother : '_' ∉ other.toList)
    (hne : other ≠ name) :
    Alike ((c.claim other).2.claim name).2 ((c.claim name).2.claim other).2 where
  count n := by
    rw [count_claim_eq, count_claim_eq, count_claim_eq, count_claim_eq,
      nextNumber_claim_of_ne hname hother hne, nextNumber_claim_of_ne hother hname hne.symm]
    by_cases h : n = name
    · rw [if_pos h, if_pos h, if_neg (h ▸ hne.symm)]
    · rw [if_neg h, if_neg h]
  taken target := by
    rw [taken_claim, taken_claim, taken_claim, taken_claim, claim_fst, claim_fst, claim_fst,
      claim_fst, nextNumber_claim_of_ne hname hother hne,
      nextNumber_claim_of_ne hother hname hne.symm]
    simp only [List.mem_cons]
    exact or_left_comm

/-- A second claim of a name gets a later form. -/
theorem nextNumber_lt_claim (c : NameCounter) (name : String) :
    c.nextNumber name < (c.claim name).2.nextNumber name := by
  have hle := ((c.claim name).2.nextNumber_spec name).1
  rw [count_claim_eq, if_pos rfl] at hle
  exact hle

/-! ### One claim ahead -/

/-- The second counter is like the first one after a claim of one more name, if there is one. -/
def Ahead (extra : Option String) (c c' : NameCounter) : Prop :=
  Alike (match extra with
    | some name => (c.claim name).2
    | none => c) c'

namespace Ahead

variable {extra : Option String}

/-- A counter that is ahead hands out later forms of the name that was claimed once more. -/
theorem nextNumber_lt (h : Ahead (some name) c c') : c.nextNumber name < c'.nextNumber name := by
  rw [Alike.nextNumber_eq h]
  exact c.nextNumber_lt_claim name

/-- **A counter that is ahead hands out the same forms of all other names.** -/
theorem nextNumber_eq (h : Ahead extra c c') (hextra : ∀ name ∈ extra, '_' ∉ name.toList)
    (hother : '_' ∉ other.toList) (hne : extra ≠ some other) :
    c'.nextNumber other = c.nextNumber other := by
  rw [Alike.nextNumber_eq h]
  cases extra with
  | none => rfl
  | some name =>
    exact nextNumber_claim_of_ne (hextra name rfl) hother fun heq => hne (heq ▸ rfl)

/-- **A counter that is ahead stays ahead** when the same name is claimed on both. -/
theorem claim (h : Ahead extra c c') (hextra : ∀ name ∈ extra, '_' ∉ name.toList)
    (hother : '_' ∉ other.toList) : Ahead extra (c.claim other).2 (c'.claim other).2 := by
  have hclaims := Alike.claim h other
  cases extra with
  | none => exact hclaims
  | some name =>
    by_cases hne : other = name
    · rw [hne] at hclaims ⊢
      exact hclaims
    · exact (c.claim_comm (hextra name rfl) hother hne).trans hclaims

end Ahead

end HeaderBindings.NameCounter
