import HeaderBindings.Proofs.Naming.FreshNames
import Mathlib.Data.List.TakeWhile

/-!
# Claims are numbered without gaps

A counter searches for a form that is not taken, so in general it may pass over numbers. It passes
over none as long as only names without underscores are claimed: a form is then read back as its
name and its number, so that the forms of one name are never taken by another, and the `n`-th claim
of a name gets its `n`-th form.
-/

namespace HeaderBindings.NameCounter

/-! ### Reading a form back -/

/-- What stands in front of the suffix of a form is the name. -/
theorem takeWhile_form {name : String} (h : '_' ∉ name.toList) (n : Nat) :
    (form name n).toList.takeWhile (· ≠ '_') = name.toList := by
  have hname : ∀ c ∈ name.toList, decide (c ≠ '_') = true := by
    intro c hc
    exact decide_eq_true fun heq => h (heq ▸ hc)
  cases n with
  | zero => exact List.takeWhile_eq_self_iff.2 hname
  | succ n =>
    rw [form, String.append_assoc, String.toList_append, List.takeWhile_append_of_pos hname,
      String.toList_append]
    simp

/-- **The forms of names without underscores are all different.** -/
theorem form_inj {name other : String} {m n : Nat} (hname : '_' ∉ name.toList)
    (hother : '_' ∉ other.toList) (h : form name m = form other n) : name = other ∧ m = n := by
  have hlists : name.toList = other.toList := by
    rw [← takeWhile_form hname m, ← takeWhile_form hother n, h]
  obtain rfl : name = other := String.toList_inj.1 hlists
  exact ⟨rfl, form_injective h⟩

/-- A form as it is written: the first one is the name itself, and the others have their number
behind it. -/
theorem form_eq (name : String) (n : Nat) :
    form name n = if n = 0 then name else name ++ "__" ++ n.repr := by
  cases n with
  | zero => rfl
  | succ n => rfl

/-! ### Claims in order -/

theorem firstFree_of_not_mem {taken : List String} {name : String} {n : Nat}
    (h : form name n ∉ taken) (attempts : Nat) : firstFree taken name attempts n = n := by
  cases attempts with
  | zero => rfl
  | succ attempts => rw [firstFree, if_neg h]

theorem count_claim (c : NameCounter) (name other : String) :
    (c.claim name).2.count other =
      if other = name then firstFree c.taken name c.taken.length (c.count name) + 1
      else c.count other := by
  unfold claim count
  dsimp only
  rw [OrderedMap.get?_insert]
  split <;> rfl

/-- A counter after some claims of names without underscores: it has counted them, and the forms
that are taken are the first ones of each name. -/
structure Numbers (c : NameCounter) (claims : List String) : Prop where
  plain : ∀ name ∈ claims, '_' ∉ name.toList
  count : ∀ name, c.count name = claims.count name
  taken : ∀ target ∈ c.taken,
    ∃ name ∈ claims, ∃ n < claims.count name, target = form name n

theorem Numbers.start : Numbers {} [] where
  plain _ h := nomatch h
  count _ := rfl
  taken _ h := nomatch h

namespace Numbers

variable {c : NameCounter} {claims : List String} {name : String}

theorem next_not_mem (h : Numbers c claims) (hname : '_' ∉ name.toList) :
    form name (claims.count name) ∉ c.taken := by
  intro hmem
  obtain ⟨other, hother, n, hn, heq⟩ := h.taken _ hmem
  obtain ⟨rfl, rfl⟩ := form_inj hname (h.plain other hother) heq
  exact Nat.lt_irrefl _ hn

/-- **A claim gets the form whose number is that of the claims before it.** -/
theorem claim_eq (h : Numbers c claims) (hname : '_' ∉ name.toList) :
    (c.claim name).1 = form name (claims.count name) := by
  have hfree := h.next_not_mem hname
  rw [← h.count name] at hfree ⊢
  show form name (firstFree c.taken name c.taken.length (c.count name)) = _
  rw [firstFree_of_not_mem hfree]

/-- **A claim is counted behind the others.** -/
theorem claim (h : Numbers c claims) (hname : '_' ∉ name.toList) :
    Numbers (c.claim name).2 (claims ++ [name]) where
  plain := by
    intro other hother
    rcases List.mem_append.1 hother with hother | hother
    · exact h.plain other hother
    · rw [List.mem_singleton.1 hother]
      exact hname
  count := by
    intro other
    have hfree := h.next_not_mem hname
    rw [← h.count name] at hfree
    rw [count_claim, firstFree_of_not_mem hfree, List.count_append, List.count_singleton,
      h.count, h.count]
    by_cases heq : other = name
    · simp [heq]
    · simp [heq, Ne.symm heq]
  taken := by
    intro target htarget
    rw [taken_claim, h.claim_eq hname] at htarget
    rcases List.mem_cons.1 htarget with rfl | htarget
    · refine ⟨name, List.mem_append_right _ List.mem_cons_self, claims.count name, ?_, rfl⟩
      simp
    · obtain ⟨other, hother, n, hn, heq⟩ := h.taken target htarget
      refine ⟨other, List.mem_append_left _ hother, n, ?_, heq⟩
      rw [List.count_append]
      omega

end Numbers

end HeaderBindings.NameCounter
