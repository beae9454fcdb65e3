import HeaderBindings.Proofs.Naming.ClaimAhead
import Mathlib.Data.Finset.Insert
import Mathlib.Order.Bounds.Basic
import Mathlib.Order.Nat

/-!
# Counts are a cache

A counter starts the search for a free form at the count of the name and never looks back. It misses
nothing: all forms below the count are taken (`Counted`), whatever was reserved and claimed before.
So a claim gets the first of all forms that were neither reserved nor handed out, as from a counter
that keeps the taken names only and scans all forms each time (`claims_scan`).
-/

namespace HeaderBindings.NameCounter

variable {c : NameCounter} {name : String}

/-! ### Calls -/

/-- A call on a counter. -/
inductive Call where
  | reserve (name : String)
  | claim (name : String)
  deriving Repr, DecidableEq

def Call.apply (c : NameCounter) : Call → NameCounter
  | reserve name => c.reserve name
  | claim name => (c.claim name).2

/-- The counter after some calls. -/
def after (c : NameCounter) (calls : List Call) : NameCounter := calls.foldl Call.apply c

/-- What the claims among some calls hand out, in order. -/
def answers : NameCounter → List Call → List String
  | _, [] => []
  | c, .reserve name :: calls => answers (c.reserve name) calls
  | c, .claim name :: calls => (c.claim name).1 :: answers (c.claim name).2 calls

/-- A name that was reserved or handed out by some calls on a fresh counter. -/
def Unavailable (calls : List Call) (target : String) : Prop :=
  .reserve target ∈ calls ∨ target ∈ answers {} calls

/-- The names that are taken are those that were reserved or handed out. -/
theorem mem_taken_after {calls : List Call} {target : String} :
    target ∈ (c.after calls).taken ↔
      target ∈ c.taken ∨ .reserve target ∈ calls ∨ target ∈ answers c calls := by
  induction calls generalizing c with
  | nil => simp [after, answers]
  | cons call calls ih =>
    have hstep : c.after (call :: calls) = (call.apply c).after calls := rfl
    rw [hstep, ih]
    cases call with
    | reserve name =>
      rw [Call.apply, answers, mem_taken_reserve, List.mem_cons, Call.reserve.injEq]
      tauto
    | claim name =>
      rw [Call.apply, answers, taken_claim, List.mem_cons, List.mem_cons, List.mem_cons]
      simp only [reduceCtorEq, false_or]
      tauto

theorem mem_taken_after_iff {calls : List Call} {target : String} :
    target ∈ (after {} calls).taken ↔ Unavailable calls target := by
  rw [mem_taken_after, Unavailable]
  exact or_iff_right List.not_mem_nil

/-! ### The search as a loop -/

/-- A search for a free form, round by round: it ends at a form that is free, and goes on behind one
that is taken. -/
inductive Search (taken : List String) (name : String) : Nat → Nat → Prop where
  | found {n} : form name n ∉ taken → Search taken name n n
  | next {n m} : form name n ∈ taken → Search taken name (n + 1) m → Search taken name n m

/-- A search ends at a free form if all forms on the way are taken. -/
theorem search_of_passed {taken : List String} {n m : Nat} (hle : n ≤ m)
    (hfree : form name m ∉ taken) (hpassed : ∀ i, n ≤ i → i < m → form name i ∈ taken) :
    Search taken name n m := by
  -- by induction on the start of the search, from its end downwards
  induction hle using Nat.decreasingInduction with
  | self => exact .found hfree
  | of_succ n hlt ih =>
    have hrest := ih fun i hi => hpassed i ((Nat.le_succ n).trans hi)
    exact .next (hpassed n (Nat.le_refl n) hlt) hrest

/-- **The search of a claim ends**, at the form that the claim hands out. -/
theorem search_nextNumber (c : NameCounter) (name : String) :
    Search c.taken name (c.count name) (c.nextNumber name) :=
  have ⟨hle, hfree, hpassed⟩ := c.nextNumber_spec name
  search_of_passed hle hfree hpassed

/-! ### What has been counted -/

/-- All forms of a name are taken that are below its count. -/
def Counted (c : NameCounter) : Prop := ∀ name, ∀ i < c.count name, form name i ∈ c.taken

namespace Counted

theorem start : Counted {} := by
  intro name i hi
  exact absurd hi (Nat.not_lt_zero i)

theorem reserve (h : Counted c) (name : String) : Counted (c.reserve name) := by
  intro other i hi
  exact mem_taken_reserve.2 (.inr (h other i hi))

/-- **Everything below the new count of a claimed name is taken**: what was below the old one, what
the search has passed, and the form that is handed out. -/
theorem claim (h : Counted c) (name : String) : Counted (c.claim name).2 := by
  intro other i hi
  rw [count_claim_eq] at hi
  rw [taken_claim, claim_fst, List.mem_cons]
  split at hi
  · next heq =>
    subst heq
    rcases Nat.lt_succ_iff_lt_or_eq.1 hi with hlt | rfl
    · rcases Nat.lt_or_ge i (c.count other) with hbelow | hpassed
      · exact .inr (h other i hbelow)
      · exact .inr ((c.nextNumber_spec other).2.2 i hpassed hlt)
    · exact .inl rfl
  · exact .inr (h other i hi)

/-- **Calls keep to what has been counted.** -/
theorem after (h : Counted c) (calls : List Call) : Counted (c.after calls) := by
  induction calls generalizing c with
  | nil => exact h
  | cons call calls ih =>
    cases call with
    | reserve name => exact ih (h.reserve name)
    | claim name => exact ih (h.claim name)

/-- **A claim gets the first of all free forms**, although its search starts at the count. -/
theorem isLeast (h : Counted c) (name : String) :
    IsLeast {n | form name n ∉ c.taken} (c.nextNumber name) := by
  obtain ⟨-, hfree, hpassed⟩ := c.nextNumber_spec name
  refine ⟨hfree, fun n hn => ?_⟩
  by_contra hlt
  rcases Nat.lt_or_ge n (c.count name) with hbelow | hge
  · exact hn (h name n hbelow)
  · exact hn (hpassed n hge (Nat.lt_of_not_ge hlt))

end Counted

/-! ### A counter that scans from the start -/

theorem exists_form_not_mem (taken : Finset String) (name : String) :
    ∃ n, form name n ∉ taken :=
  ⟨_, fun h => form_firstFree_not_mem taken.toList name 0 (Finset.mem_toList.2 h)⟩

/-- The first form of a name that is not in a set of taken names. -/
def scan (taken : Finset String) (name : String) : String :=
  form name (Nat.find (exists_form_not_mem taken name))

/-- What claims get where only the set of taken names is kept, and scanned from the start. -/
def scanAnswers : Finset String → List Call → List String
  | _, [] => []
  | taken, .reserve name :: calls => scanAnswers (insert name taken) calls
  | taken, .claim name :: calls =>
    scan taken name :: scanAnswers (insert (scan taken name) taken) calls

theorem claim_eq_scan (h : Counted c) {taken : Finset String}
    (htaken : ∀ target, target ∈ c.taken ↔ target ∈ taken) (name : String) :
    (c.claim name).1 = scan taken name := by
  have hleast := h.isLeast name
  simp only [htaken] at hleast
  rw [claim_fst, scan, hleast.unique (Nat.isLeast_find _)]

/-- **The counts change no answer.** By induction on the calls: the names taken on the counter stay
those in the set, and the forms below each count stay taken. -/
theorem answers_eq_scanAnswers (h : Counted c) {taken : Finset String}
    (htaken : ∀ target, target ∈ c.taken ↔ target ∈ taken) (calls : List Call) :
    answers c calls = scanAnswers taken calls := by
  induction calls generalizing c taken with
  | nil => rfl
  | cons call calls ih =>
    cases call with
    | reserve name =>
      refine ih (h.reserve name) fun target => ?_
      rw [mem_taken_reserve, Finset.mem_insert, htaken]
    | claim name =>
      have heq := claim_eq_scan h htaken name
      have hrest : answers (c.claim name).2 calls =
          scanAnswers (insert (scan taken name) taken) calls := by
        refine ih (h.claim name) fun target => ?_
        rw [taken_claim, List.mem_cons, Finset.mem_insert, heq, htaken]
      rw [answers, scanAnswers, heq, hrest]

/-- **The counts are only a cache.**

After any calls on a fresh counter, what the claims have handed out is what a counter hands out that
keeps the taken names only and scans from the start. The search of a further claim ends, and the
claim gets the first form of its name that was neither reserved nor handed out. The count of the
name is then one more than the number of that form, and those of other names are unchanged;
reserving a name changes no count. -/
theorem claims_scan (calls : List Call) :
    answers {} calls = scanAnswers ∅ calls ∧
    ∀ name, ∃ n,
      Search (after {} calls).taken name ((after {} calls).count name) n ∧
      ((after {} calls).claim name).1 = form name n ∧
      IsLeast {i | ¬ Unavailable calls (form name i)} n ∧
      ((after {} calls).claim name).2.count name = n + 1 ∧
      (∀ other, other ≠ name →
        ((after {} calls).claim name).2.count other = (after {} calls).count other) ∧
      ∀ other, ((after {} calls).reserve name).count other = (after {} calls).count other := by
  refine ⟨answers_eq_scanAnswers Counted.start (by simp) calls, fun name => ?_⟩
  have hleast := (Counted.start.after calls).isLeast name
  simp only [mem_taken_after_iff] at hleast
  refine ⟨(after {} calls).nextNumber name, search_nextNumber _ name, claim_fst _ name, hleast,
    ?_, ?_, fun other => rfl⟩
  · rw [count_claim_eq, if_pos rfl]
  · intro other hne
    rw [count_claim_eq, if_neg hne]

example : answers {}
    [.reserve "Foo__1", .claim "Foo", .claim "Foo", .claim "Foo__1", .claim "Foo"] =
    ["Foo", "Foo__2", "Foo__1__1", "Foo__3"] := by
  decide

end HeaderBindings.NameCounter
