import HeaderBindings.Proofs.Conversion.Trimming
import HeaderBindings.Proofs.Naming.WrittenNames
import Mathlib.Data.List.Basic

/-!
# The first prefix that matches decides

Of the prefixes that rules list, the first one that matches a name rewrites it, and it is the same
one whether names are trimmed or replaced (`first_match_decides`). So prefixes that do not match may
stand anywhere, and what comes behind one that matches does not count.

What a prefix matches is left to `Prefix.applies`, and what it makes of a name to
`Prefix.rewritten`, for patterns and texts alike. Nothing more is used of patterns than that whether
they match does not depend on the replacement (`Prefix.rewrite?_eq`). So the results below hold of
every kind of prefix, and would hold of further kinds.

The configuration lists prefixes and replacements side by side, and the replacements may be fewer or
more. `PrefixRules.ofLists` pairs them by position. Statements about a changed list of prefixes
therefore have to say what happens to the replacements, which is where padding comes in.
-/

namespace HeaderBindings

namespace Prefix

/-! ### Prefixes -/

/-- Whether a prefix matches a name: somewhere as a pattern, or at its start as a text. -/
def applies (p : Prefix) (name : String) : Bool :=
  match p with
  | pattern p => p.isMatch name
  | literal text => text.toList.isPrefixOf name.toList

/-- The name with the replacement in the place of all that the prefix matches. -/
def rewritten (p : Prefix) (name replacement : String) : String :=
  match p with
  | pattern p => p.replaceAll name replacement
  | literal text => Text.substitute name text replacement

/-- **Whether a prefix matches does not depend on its replacement.** -/
theorem rewrite?_eq (p : Prefix) (name replacement : String) :
    p.rewrite? name replacement =
      if p.applies name then some (p.rewritten name replacement) else none := by
  cases p <;> rfl

end Prefix

namespace PrefixRules

/-! ### Lists of rules

Rules are tried in order, so a list of rules is split at the first one that matches. In front of it
nothing happens and behind it nothing is looked at.
-/

section Rules

variable {rules before after : List (Prefix × String)} {rule : Prefix × String}
  {pick : String → String} {name : String}

theorem rewriteFirst_of_rules {r : PrefixRules} (h : r.rules = rules) :
    r.rewriteFirst pick name = rewriteFirst ⟨rules⟩ pick name := by
  rw [← h]

/-- A name that no rule matches is left alone. -/
theorem rewriteFirst_of_none (h : ∀ rule ∈ rules, rule.1.applies name = false) :
    rewriteFirst ⟨rules⟩ pick name = name := by
  have hnone : rules.findSome? (fun rule => rule.1.rewrite? name (pick rule.2)) = none := by
    rw [List.findSome?_eq_none_iff]
    intro rule hrule
    simp [Prefix.rewrite?_eq, h rule hrule]
  rw [rewriteFirst, hnone, Option.getD_none]

/-- **The first rule that matches rewrites the name.** -/
theorem rewriteFirst_of_first (hbefore : ∀ rule ∈ before, rule.1.applies name = false)
    (h : rule.1.applies name) :
    rewriteFirst ⟨before ++ rule :: after⟩ pick name = rule.1.rewritten name (pick rule.2) := by
  have hfirst : (before ++ rule :: after).findSome?
      (fun rule => rule.1.rewrite? name (pick rule.2)) =
        some (rule.1.rewritten name (pick rule.2)) := by
    rw [List.findSome?_eq_some_iff]
    refine ⟨before, rule, after, rfl, ?_, fun other hother => ?_⟩
    · simp [Prefix.rewrite?_eq, h]
    · simp [Prefix.rewrite?_eq, hbefore other hother]
  rw [rewriteFirst, hfirst, Option.getD_some]

/-- Rules behind one that matches do not count. -/
theorem rewriteFirst_append (h : ∃ rule ∈ before, rule.1.applies name) :
    rewriteFirst ⟨before ++ after⟩ pick name = rewriteFirst ⟨before⟩ pick name := by
  have hsome : (before.findSome? fun rule => rule.1.rewrite? name (pick rule.2)).isSome := by
    obtain ⟨rule, hrule, happlies⟩ := h
    rw [List.findSome?_isSome_iff]
    exact ⟨rule, hrule, by simp [Prefix.rewrite?_eq, happlies]⟩
  rw [rewriteFirst, rewriteFirst, List.findSome?_append, Option.or_of_isSome hsome]

/-- A rule that does not match does not count. -/
theorem rewriteFirst_insert (h : rule.1.applies name = false) :
    rewriteFirst ⟨before ++ rule :: after⟩ pick name =
      rewriteFirst ⟨before ++ after⟩ pick name := by
  have hrule : rule.1.rewrite? name (pick rule.2) = none := by simp [Prefix.rewrite?_eq, h]
  rw [rewriteFirst, rewriteFirst, List.findSome?_append, List.findSome?_append, List.findSome?_cons,
    hrule]

end Rules

/-! ### Rules of parallel lists

The rules of two lists put together are those of the first one and then those of the second one,
with what the first one leaves of the replacements.
-/

section Lists

variable {prefixes replacements replacements' : List String}

/-- Rules depend only on which replacements their prefixes have. -/
theorem ofLists_congr
    (h : ∀ i < prefixes.length, replacements[i]?.getD "" = replacements'[i]?.getD "") :
    ofLists prefixes replacements = ofLists prefixes replacements' := by
  rw [ofLists, ofLists, mk.injEq, List.mapIdx_eq_mapIdx_iff]
  intro i hi
  rw [h i hi]

/-- More prefixes are paired with what is left of the replacements. -/
theorem rules_append (first second replacements : List String) :
    (ofLists (first ++ second) replacements).rules =
      (ofLists first replacements).rules ++
        (ofLists second (replacements.drop first.length)).rules := by
  simp only [ofLists, List.mapIdx_append, List.getElem?_drop, Nat.add_comm]

/-- Parallel lists that are put together pairwise give the rules of both pairs. -/
theorem rules_append_append {first firstNew : List String} (h : firstNew.length = first.length)
    (second secondNew : List String) :
    (ofLists (first ++ second) (firstNew ++ secondNew)).rules =
      (ofLists first firstNew).rules ++ (ofLists second secondNew).rules := by
  have hfirst : ofLists first (firstNew ++ secondNew) = ofLists first firstNew := by
    apply ofLists_congr
    intro i hi
    rw [List.getElem?_append_left (h ▸ hi)]
  rw [rules_append, hfirst, ← h, List.drop_left]

/-- The first prefix is paired with the first replacement, or with an empty one. -/
theorem rules_cons (p : String) (prefixes replacements : List String) :
    (ofLists (p :: prefixes) replacements).rules =
      (Prefix.ofString p, replacements[0]?.getD "") ::
        (ofLists prefixes (replacements.drop 1)).rules := by
  simp [ofLists, List.mapIdx_cons]

/-- Replacements may be padded with empty ones. -/
theorem ofLists_pad (prefixes replacements : List String) (k : Nat) :
    ofLists prefixes (replacements ++ List.replicate k "") = ofLists prefixes replacements := by
  apply ofLists_congr
  intro i _
  rw [List.getElem?_append]
  split
  · rfl
  · next hi =>
    rw [List.getElem?_eq_none (Nat.le_of_not_lt hi), List.getElem?_replicate]
    split <;> rfl

/-- Replacements beyond the prefixes do not count. -/
theorem ofLists_surplus (surplus : List String) (h : prefixes.length ≤ replacements.length) :
    ofLists prefixes (replacements ++ surplus) = ofLists prefixes replacements := by
  apply ofLists_congr
  intro i hi
  rw [List.getElem?_append_left (Nat.lt_of_lt_of_le hi h)]

end Lists

/-! ### The first prefix that matches

In terms of the lists as they are configured, a prefix is matched by its spelling. The replacement
that goes with it is the one at its position.
-/

section First

variable {prefixes replacements : List String} {name : String}

/-- A prefix, as it is listed, matches a name. -/
def Matches (candidate name : String) : Prop := (Prefix.ofString candidate).applies name

/-- The first of some prefixes that matches a name, and its position. -/
inductive FirstMatch (prefixes : List String) (name : String) : Nat → String → Prop where
  | intro {before : List String} {candidate : String} {after : List String} :
    prefixes = before ++ candidate :: after → (∀ earlier ∈ before, ¬ Matches earlier name) →
    Matches candidate name → FirstMatch prefixes name before.length candidate

/-- Two sets of rules trim a name alike and replace alike in it. -/
def Agree (name : String) (r r' : PrefixRules) : Prop :=
  r.trim name = r'.trim name ∧ r.replace name = r'.replace name

/-- Rules that rewrite a name alike, with any choice of replacements, agree on it. -/
theorem agree_of_rewriteFirst {r r' : PrefixRules}
    (h : ∀ pick, r.rewriteFirst pick name = r'.rewriteFirst pick name) : Agree name r r' :=
  ⟨h _, h _⟩

/-- Either no prefix matches, or there is a first one that does. -/
theorem exists_firstMatch_or (prefixes : List String) (name : String) :
    (∀ candidate ∈ prefixes, ¬ Matches candidate name) ∨
      ∃ i candidate, FirstMatch prefixes name i candidate := by
  cases hfind : prefixes.find? fun candidate => (Prefix.ofString candidate).applies name with
  | none => exact .inl (List.find?_eq_none.1 hfind)
  | some candidate =>
    obtain ⟨hmatches, before, after, heq, hbefore⟩ := List.find?_eq_some_iff_append.1 hfind
    have hearlier : ∀ earlier ∈ before, ¬ Matches earlier name := by
      intro earlier hmem
      simpa [Matches] using hbefore earlier hmem
    exact .inr ⟨_, candidate, heq, hearlier, hmatches⟩

/-- If no listed prefix matches a name, no rule does. -/
theorem applies_of_mem_rules {rule : Prefix × String}
    (h : ∀ candidate ∈ prefixes, ¬ Matches candidate name)
    (hrule : rule ∈ (ofLists prefixes replacements).rules) : rule.1.applies name = false := by
  obtain ⟨i, hi, rfl⟩ := List.mem_mapIdx.1 hrule
  exact Bool.eq_false_iff.2 (h _ (List.getElem_mem hi))

/-- **A name that no prefix matches is left alone.** -/
theorem rewriteFirst_of_not_matches (h : ∀ candidate ∈ prefixes, ¬ Matches candidate name)
    (pick : String → String) : (ofLists prefixes replacements).rewriteFirst pick name = name :=
  rewriteFirst_of_none fun _ hrule => applies_of_mem_rules h hrule

/-- **The first prefix that matches rewrites the name**, with the replacement at its position. -/
theorem FirstMatch.rewriteFirst_eq {i : Nat} {candidate : String}
    (h : FirstMatch prefixes name i candidate) (replacements : List String)
    (pick : String → String) :
    (ofLists prefixes replacements).rewriteFirst pick name =
      (Prefix.ofString candidate).rewritten name (pick (replacements[i]?.getD "")) := by
  cases h with
  | @intro before _ after heq hbefore hmatches =>
    have hown : (replacements.drop before.length)[0]? = replacements[before.length]? := by
      rw [List.getElem?_drop, Nat.add_zero]
    have hrules := rules_append before (candidate :: after) replacements
    rw [rules_cons, hown, ← heq] at hrules
    rw [rewriteFirst_of_rules hrules]
    exact rewriteFirst_of_first (fun _ hrule => applies_of_mem_rules hbefore hrule) hmatches

/-- What becomes of a name by the first prefix that matches it, with a replacement by position. -/
inductive Decided (prefixes : List String) (replacementAt : Nat → String) (name : String) :
    String → Prop where
  | unmatched : (∀ candidate ∈ prefixes, ¬ Matches candidate name) →
    Decided prefixes replacementAt name name
  | matched {i : Nat} {candidate : String} : FirstMatch prefixes name i candidate →
    Decided prefixes replacementAt name
      ((Prefix.ofString candidate).rewritten name (replacementAt i))

/-- One of the two cases applies to each name. -/
theorem decided_rewriteFirst (prefixes replacements : List String) (pick : String → String)
    (name : String) :
    Decided prefixes (fun i => pick (replacements[i]?.getD "")) name
      ((ofLists prefixes replacements).rewriteFirst pick name) := by
  rcases exists_firstMatch_or prefixes name with hnone | ⟨i, candidate, hfirst⟩
  · rw [rewriteFirst_of_not_matches hnone]
    exact .unmatched hnone
  · rw [hfirst.rewriteFirst_eq]
    exact .matched hfirst

/-- No prefix matches a name, or the first one that does rewrites it to itself. -/
def LeavesAlone (prefixes : List String) (replacementAt : Nat → String) (name : String) : Prop :=
  (∀ candidate ∈ prefixes, ¬ Matches candidate name) ∨
    ∃ i candidate, FirstMatch prefixes name i candidate ∧
      (Prefix.ofString candidate).rewritten name (replacementAt i) = name

/-- A name stays the same in two ways only. -/
theorem rewriteFirst_eq_self_iff {pick : String → String} :
    (ofLists prefixes replacements).rewriteFirst pick name = name ↔
      LeavesAlone prefixes (fun i => pick (replacements[i]?.getD "")) name := by
  constructor
  · intro h
    rcases exists_firstMatch_or prefixes name with hnone | ⟨i, candidate, hfirst⟩
    · exact .inl hnone
    · rw [hfirst.rewriteFirst_eq] at h
      exact .inr ⟨i, candidate, hfirst, h⟩
  · rintro (hnone | ⟨i, candidate, hfirst, h⟩)
    · exact rewriteFirst_of_not_matches hnone pick
    · rw [hfirst.rewriteFirst_eq]
      exact h

/-! ### Lists that are changed

Trimming and replacing read the same rules, so it is enough that all ways to pick a replacement
agree.
-/

/-- Prefixes behind one that matches do not count, nor do their replacements. -/
theorem agree_append {more replacements' : List String}
    (h : ∃ candidate ∈ prefixes, Matches candidate name)
    (hsame : ∀ i < prefixes.length, replacements'[i]?.getD "" = replacements[i]?.getD "") :
    Agree name (ofLists (prefixes ++ more) replacements') (ofLists prefixes replacements) := by
  rw [← ofLists_congr hsame]
  have hmatches : ∃ rule ∈ (ofLists prefixes replacements').rules, rule.1.applies name := by
    obtain ⟨candidate, hcandidate, hmatches⟩ := h
    obtain ⟨i, hi, rfl⟩ := List.getElem_of_mem hcandidate
    exact ⟨_, List.mem_mapIdx.2 ⟨i, hi, rfl⟩, hmatches⟩
  apply agree_of_rewriteFirst
  intro pick
  rw [← rewriteFirst_append hmatches, ← rules_append]

/-- An insertion at some place splits the list there. -/
theorem insertIdx_eq {α : Type} (a : α) {l : List α} {i : Nat} (h : i ≤ l.length) :
    l.insertIdx i a = l.take i ++ a :: l.drop i := by
  induction i generalizing l with
  | zero => rfl
  | succ i ih =>
    cases l with
    | nil => exact absurd h (Nat.not_succ_le_zero i)
    | cons b l =>
      rw [List.insertIdx_succ_cons, ih (Nat.le_of_succ_le_succ h), List.take_succ_cons,
        List.drop_succ_cons, List.cons_append]

/-- **A prefix that does not match may be inserted anywhere**, with any replacement. -/
theorem agree_insertIdx {candidate : String} (h : ¬ Matches candidate name) (replacement : String)
    {i : Nat} (hi : i ≤ prefixes.length) (hi' : i ≤ replacements.length) :
    Agree name
      (ofLists (prefixes.insertIdx i candidate) (replacements.insertIdx i replacement))
      (ofLists prefixes replacements) := by
  have hlength : (replacements.take i).length = (prefixes.take i).length := by
    rw [List.length_take_of_le hi, List.length_take_of_le hi']
  have hold := rules_append_append hlength (prefixes.drop i) (replacements.drop i)
  have hnew := rules_append_append hlength (candidate :: prefixes.drop i)
    (replacement :: replacements.drop i)
  rw [List.take_append_drop, List.take_append_drop] at hold
  rw [← insertIdx_eq candidate hi, ← insertIdx_eq replacement hi', rules_cons] at hnew
  apply agree_of_rewriteFirst
  intro pick
  rw [rewriteFirst_of_rules hnew, rewriteFirst_of_rules hold]
  exact rewriteFirst_insert (Bool.eq_false_iff.2 h)

/-- A name is trimmed as it is replaced without replacements. -/
theorem trim_eq_replace (prefixes replacements : List String) (name : String) :
    (ofLists prefixes replacements).trim name = (ofLists prefixes []).replace name := by
  rw [trim_ofLists prefixes replacements []]
  refine rewriteFirst_congr (fun rule hrule => ?_) name
  obtain ⟨i, hi, rfl⟩ := List.mem_mapIdx.1 hrule
  rfl

end First

/-- **The first prefix that matches decides.**

The first prefix that matches a name rewrites it. Trimming puts nothing in the place of the matches,
and replacing puts the replacement at the position of the prefix there, or nothing if the list of
replacements ends before. So a name stays the same exactly if no prefix matches or the first one
rewrites it to itself. The result is not changed

* by prefixes behind one that matches;
* by a prefix that does not match, inserted at any place with any replacement at the same place,
  where a list of replacements that ends before is padded with empty ones first;
* by padding the replacements with empty ones, or by surplus ones.

And trimming is replacing without replacements. -/
theorem first_match_decides (prefixes replacements : List String) (name : String) :
    let r := ofLists prefixes replacements
    let own := fun i => replacements[i]?.getD ""
    Decided prefixes (fun _ => "") name (r.trim name) ∧
    Decided prefixes own name (r.replace name) ∧
    (r.trim name = name ↔ LeavesAlone prefixes (fun _ => "") name) ∧
    (r.replace name = name ↔ LeavesAlone prefixes own name) ∧
    (∀ more replacements' : List String, (∃ candidate ∈ prefixes, Matches candidate name) →
      (∀ i < prefixes.length, replacements'[i]?.getD "" = own i) →
        Agree name (ofLists (prefixes ++ more) replacements') r) ∧
    (∀ (candidate replacement : String) (i k : Nat), ¬ Matches candidate name →
      i ≤ prefixes.length → i ≤ (replacements ++ List.replicate k "").length →
        Agree name
          (ofLists (prefixes.insertIdx i candidate)
            ((replacements ++ List.replicate k "").insertIdx i replacement)) r) ∧
    (∀ k, Agree name (ofLists prefixes (replacements ++ List.replicate k "")) r) ∧
    (∀ surplus, prefixes.length ≤ replacements.length →
      Agree name (ofLists prefixes (replacements ++ surplus)) r) ∧
    r.trim name = (ofLists prefixes []).replace name := by
  intro r own
  refine ⟨decided_rewriteFirst prefixes replacements (fun _ => "") name,
    decided_rewriteFirst prefixes replacements id name, rewriteFirst_eq_self_iff,
    rewriteFirst_eq_self_iff, fun more replacements' => agree_append, ?_, ?_, ?_,
    trim_eq_replace prefixes replacements name⟩
  · intro candidate replacement i k h hi hi'
    have hagree := agree_insertIdx h replacement hi hi'
    rwa [ofLists_pad] at hagree
  · intro k
    rw [ofLists_pad]
    exact ⟨rfl, rfl⟩
  · intro surplus h
    rw [ofLists_surplus surplus h]
    exact ⟨rfl, rfl⟩

-- the first prefix that matches is a text, as its parenthesis is not closed
example : (ofLists ["lua(", "^lua"] ["L"]).replace "lua(new)lua(" = "Lnew)L" := by
  decide +kernel

end PrefixRules

end HeaderBindings
