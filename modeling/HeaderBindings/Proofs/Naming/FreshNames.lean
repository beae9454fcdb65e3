import HeaderBindings.Naming.NameCounter

/-!
# A claimed name is new

The search for a free form of a name has as many attempts as there are taken names. The forms of a
name differ from each other, so the attempts cannot all fail: what `claim` returns was neither
claimed nor reserved before.
-/

namespace HeaderBindings.NameCounter

/-! ### The forms of a name -/

theorem repr_injective {m n : Nat} (h : m.repr = n.repr) : m = n := by
  have hd : Nat.toDigits 10 m = Nat.toDigits 10 n := by
    rw [← Nat.toList_repr, ← Nat.toList_repr, h]
  rw [← Nat.ofDigitChars_ten_toDigits (n := m), hd, Nat.ofDigitChars_ten_toDigits]

theorem form_succ_ne (name : String) (n : Nat) : form name (n + 1) ≠ name := by
  intro h
  have hl := congrArg String.length h
  rw [form, String.length_append, String.length_append] at hl
  have hs : "__".length = 2 := rfl
  omega

/-- **The forms of a name differ from each other.** -/
theorem form_injective {name : String} {m n : Nat} (h : form name m = form name n) : m = n := by
  cases m with
  | zero =>
    cases n with
    | zero => rfl
    | succ n => exact absurd h.symm (form_succ_ne name n)
  | succ m =>
    cases n with
    | zero => exact absurd h (form_succ_ne name m)
    | succ n => exact repr_injective ((String.append_right_inj (name ++ "__")).1 h)

/-! ### The search -/

variable {taken : List String} {name : String}

/-- The search only passes over forms that are taken. -/
theorem form_mem_of_lt_firstFree {attempts n i : Nat} (hle : n ≤ i)
    (hlt : i < firstFree taken name attempts n) : form name i ∈ taken := by
  induction attempts generalizing n with
  | zero => exact absurd hlt (Nat.not_lt.2 hle)
  | succ attempts ih =>
    rw [firstFree] at hlt
    split at hlt
    · next htaken =>
      -- the search has seen form `n` just now, and the forms behind it later
      rcases Nat.eq_or_lt_of_le hle with rfl | hle
      · exact htaken
      · exact ih hle hlt
    · exact absurd hlt (Nat.not_lt.2 hle)

/-- A search that ends at a taken form has used up its attempts. -/
theorem firstFree_eq_of_mem {attempts n : Nat}
    (h : form name (firstFree taken name attempts n) ∈ taken) :
    firstFree taken name attempts n = n + attempts := by
  induction attempts generalizing n with
  | zero => rfl
  | succ attempts ih =>
    rw [firstFree] at h ⊢
    split at h
    · next htaken =>
      rw [if_pos htaken, ih h]
      omega
    · next hfree => exact absurd h hfree

/-- **As many attempts as there are taken names suffice.** Otherwise one more form than there are
taken names would be among them. -/
theorem form_firstFree_not_mem (taken : List String) (name : String) (n : Nat) :
    form name (firstFree taken name taken.length n) ∉ taken := by
  intro h
  have hend := firstFree_eq_of_mem h
  -- the forms that the search has passed, and the one at which it has ended
  let forms := (List.range (taken.length + 1)).map fun i => form name (n + i)
  have hnodup : forms.Nodup := by
    refine List.Pairwise.map _ ?_ List.nodup_range
    intro i j hij heq
    exact hij (Nat.add_left_cancel (form_injective heq))
  have hsubset : forms ⊆ taken := by
    intro other hother
    obtain ⟨i, hi, rfl⟩ := List.mem_map.1 hother
    rcases Nat.lt_succ_iff_lt_or_eq.1 (List.mem_range.1 hi) with hlt | rfl
    · have hbefore : n + i < firstFree taken name taken.length n := by omega
      exact form_mem_of_lt_firstFree (Nat.le_add_right n i) hbefore
    · rw [← hend]
      exact h
  have hlength := hnodup.length_le_of_subset hsubset
  rw [List.length_map, List.length_range] at hlength
  exact absurd hlength (Nat.not_succ_le_self _)

/-! ### Claiming and reserving -/

/-- **A claimed name was not taken before.** -/
theorem claim_not_mem (c : NameCounter) (name : String) : (c.claim name).1 ∉ c.taken :=
  form_firstFree_not_mem c.taken name (c.count name)

/-- A claimed name is taken from then on, and no other name is. -/
theorem taken_claim (c : NameCounter) (name : String) :
    (c.claim name).2.taken = (c.claim name).1 :: c.taken :=
  rfl

theorem mem_taken_foldl_reserve {other : String} {names : List String} {c : NameCounter} :
    other ∈ (names.foldl reserve c).taken ↔ other ∈ names ∨ other ∈ c.taken := by
  induction names generalizing c with
  | nil => simp
  | cons name names ih =>
    rw [List.foldl_cons, ih, mem_taken_reserve, List.mem_cons]
    constructor
    · rintro (h | h | h)
      · exact .inl (.inr h)
      · exact .inl (.inl h)
      · exact .inr h
    · rintro ((h | h) | h)
      · exact .inr (.inl h)
      · exact .inl h
      · exact .inr (.inr h)

end HeaderBindings.NameCounter
