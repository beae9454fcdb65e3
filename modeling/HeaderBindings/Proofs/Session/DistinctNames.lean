import HeaderBindings.Proofs.Naming.FreshNames
import HeaderBindings.Proofs.Session.Outcome
import HeaderBindings.Proofs.Session.Visits

/-!
# Target names are distinct over a whole run

The counter of a session has reserved the targets of all overrides before the first header, and has
taken every name that is indexed. An automatic name is new when it is claimed, so it is neither the
target of an override nor the name of another symbol, whatever headers follow: symbols share a
target name only where overrides say so.

`Accounted` is the invariant of the run. It relates the overrides, the counter and the index, and
nothing else of a session, so only visits that name a function have to be looked at
(`accounted_visit`). Such a visit writes one symbol into the index, and there are two cases.

* The symbol is overridden (`Accounted.insert_override`). Its name is reserved, so no automatic name
  is equal to it, neither one that is indexed nor one that will be.
* The symbol is not overridden (`Accounted.insert_claim`). Its name was not taken when it was
  claimed, so it differs from all names in the index and from all targets of overrides. If the
  symbol was in the index before, its old name is not in the index any more, but it remains taken.

The counter never gives a name back. So the invariant says that names in the index are taken, not
that taken names are in the index.
-/

namespace HeaderBindings

/-- An index whose target names are either those of overrides, or names that the counter has handed
out to one symbol only. -/
structure Accounted (overrides : OrderedMap String String) (counter : NameCounter)
    (index : SymbolIndex) : Prop where
  reserved : ∀ {target}, target ∈ overrides.values → target ∈ counter.taken
  claimed : ∀ {k info}, index.get? k = some info → info.targetName ∈ counter.taken
  overridden : ∀ {k info target}, index.get? k = some info → overrides.get? k = some target →
    info.targetName = target
  automatic : ∀ {k info}, index.get? k = some info → k ∉ overrides →
    info.targetName ∉ overrides.values
  apart : ∀ {k l infoK infoL}, index.get? k = some infoK → index.get? l = some infoL →
    k ∉ overrides → l ∉ overrides → infoK.targetName = infoL.targetName → k = l

namespace Accounted

variable {overrides : OrderedMap String String} {counter : NameCounter} {index : SymbolIndex}

/-- Before the first header, the targets of overrides are taken and nothing is indexed. -/
theorem start (overrides : OrderedMap String String) :
    Accounted overrides (overrides.values.foldl NameCounter.reserve {}) ∅ where
  reserved h := NameCounter.mem_taken_foldl_reserve.2 (.inl h)
  claimed h := nomatch h
  overridden h := nomatch h
  automatic h := nomatch h
  apart h := nomatch h

/-- A symbol that is indexed under the name of its override. -/
theorem insert_override (h : Accounted overrides counter index) {symbol target : String}
    (hget : overrides.get? symbol = some target) (qualified : String) :
    Accounted overrides counter (index.insert symbol ⟨target, qualified⟩) where
  reserved := h.reserved
  claimed := by
    intro k info hk
    rw [OrderedMap.get?_insert] at hk
    split at hk
    · cases hk
      exact h.reserved (OrderedMap.mem_values_of_get? hget)
    · exact h.claimed hk
  overridden := by
    intro k info other hk hother
    rw [OrderedMap.get?_insert] at hk
    split at hk
    · next heq =>
      subst heq
      cases hk
      exact Option.some.inj (hget.symm.trans hother)
    · exact h.overridden hk hother
  automatic := by
    intro k info hk hfree
    rw [OrderedMap.get?_insert] at hk
    split at hk
    · next heq => exact absurd (OrderedMap.mem_of_get? hget) (heq ▸ hfree)
    · exact h.automatic hk hfree
  apart := by
    intro k l infoK infoL hk hl hfreeK hfreeL heq
    -- the new entry is overridden, so neither of the two is the new one
    have hmem := OrderedMap.mem_of_get? hget
    have hk' : k ≠ symbol := fun e => hfreeK (e ▸ hmem)
    have hl' : l ≠ symbol := fun e => hfreeL (e ▸ hmem)
    rw [OrderedMap.get?_insert, if_neg hk'] at hk
    rw [OrderedMap.get?_insert, if_neg hl'] at hl
    exact h.apart hk hl hfreeK hfreeL heq

/-- A symbol without an override that is indexed under a claimed name. -/
theorem insert_claim (h : Accounted overrides counter index) {symbol : String}
    (hget : overrides.get? symbol = none) (candidate qualified : String) :
    Accounted overrides (counter.claim candidate).2
      (index.insert symbol ⟨(counter.claim candidate).1, qualified⟩) where
  reserved hmem := List.mem_cons_of_mem _ (h.reserved hmem)
  claimed := by
    intro k info hk
    rw [OrderedMap.get?_insert] at hk
    rw [NameCounter.taken_claim]
    split at hk
    · cases hk
      exact List.mem_cons_self
    · exact List.mem_cons_of_mem _ (h.claimed hk)
  overridden := by
    intro k info target hk htarget
    rw [OrderedMap.get?_insert] at hk
    split at hk
    · next heq =>
      rw [heq, hget] at htarget
      cases htarget
    · exact h.overridden hk htarget
  automatic := by
    intro k info hk hfree
    rw [OrderedMap.get?_insert] at hk
    split at hk
    · cases hk
      exact fun hmem => NameCounter.claim_not_mem counter candidate (h.reserved hmem)
    · exact h.automatic hk hfree
  apart := by
    intro k l infoK infoL hk hl hfreeK hfreeL heq
    have hnew := NameCounter.claim_not_mem counter candidate
    rw [OrderedMap.get?_insert] at hk hl
    split at hk <;> split at hl
    · next hk' hl' => exact hk'.trans hl'.symm
    · -- the claimed name against an older one, which is taken
      cases hk
      have htaken := h.claimed hl
      rw [← heq] at htaken
      exact absurd htaken hnew
    · cases hl
      have htaken := h.claimed hk
      rw [heq] at htaken
      exact absurd htaken hnew
    · exact h.apart hk hl hfreeK hfreeL heq

/-- Overridden symbols do not share names with symbols that are not. -/
theorem targetName_ne (h : Accounted overrides counter index) {k l : String}
    {infoK infoL : SymbolInfo} (hk : index.get? k = some infoK) (hl : index.get? l = some infoL)
    (hoverridden : k ∈ overrides) (hfree : l ∉ overrides) :
    infoK.targetName ≠ infoL.targetName := by
  intro heq
  obtain ⟨target, htarget⟩ := OrderedMap.exists_get?_of_mem hoverridden
  have hname := h.overridden hk htarget
  have hmem := OrderedMap.mem_values_of_get? htarget
  rw [← hname, heq] at hmem
  exact h.automatic hl hfree hmem

end Accounted

namespace Session

/-- **A visit keeps the names accounted for.** -/
theorem accounted_visit {s : Session} (p : Place) (d : Decl)
    (h : Accounted s.overrides s.counter s.symbols) :
    Accounted (s.visit p d).overrides (s.visit p d).counter (s.visit p d).symbols := by
  rcases (outcome_visit s p d).eq_or_bindFunction with
    ⟨types, package, skipped, emitted, ht⟩ | ⟨f, signature, -, -, -, -, ht⟩
  · rw [ht]
    exact h
  · rw [ht]
    -- a symbol is either named by its override, or claims a name
    unfold bindFunction nameFunction
    dsimp only
    split
    · next target hget => exact h.insert_override hget _
    · next hget => exact h.insert_claim hget _ _

theorem overrides_visit (s : Session) (p : Place) (d : Decl) :
    (s.visit p d).overrides = s.overrides :=
  (outcome_visit s p d).settings_eq.2.1

theorem overrides_visitAll (s : Session) (visits : List (Place × Decl)) :
    (s.visitAll visits).overrides = s.overrides :=
  visitAll_preserves (motive := fun t => t.overrides = s.overrides)
    (fun t p d ht => (overrides_visit t p d).trans ht) rfl visits

theorem overrides_processAll (s : Session) (units : List HeaderUnit) :
    (s.processAll units).overrides = s.overrides :=
  processAll_preserves (fun t p d ht => (overrides_visit t p d).trans ht) rfl units

/-- **A run keeps the names accounted for.** -/
theorem accounted_processAll (options : SessionOptions) (units : List HeaderUnit) :
    Accounted options.overrides ((start options).processAll units).counter
      ((start options).processAll units).symbols := by
  have hrun := processAll_preserves (s := start options)
    (motive := fun s => Accounted s.overrides s.counter s.symbols)
    (fun s p d h => accounted_visit p d h) (Accounted.start options.overrides) units
  rw [overrides_processAll] at hrun
  exact hrun

/-- **Two symbols of a run share a target name only if both are overridden**, and the name of a
symbol that is not overridden is the target of no override, be it one of a symbol that never
occurs. -/
theorem targetNames_distinct (options : SessionOptions) (units : List HeaderUnit) :
    (∀ k l infoK infoL,
      (k, infoK) ∈ ((start options).processAll units).symbols.entries →
      (l, infoL) ∈ ((start options).processAll units).symbols.entries →
      k ≠ l → infoK.targetName = infoL.targetName →
        k ∈ options.overrides ∧ l ∈ options.overrides) ∧
    (∀ k info, (k, info) ∈ ((start options).processAll units).symbols.entries →
      k ∉ options.overrides → info.targetName ∉ options.overrides.values) := by
  have h := accounted_processAll options units
  constructor
  · intro k l infoK infoL hk hl hne heq
    rw [OrderedMap.mem_entries_iff] at hk hl
    by_cases hoverK : k ∈ options.overrides
    · by_cases hoverL : l ∈ options.overrides
      · exact ⟨hoverK, hoverL⟩
      · exact absurd heq (h.targetName_ne hk hl hoverK hoverL)
    · by_cases hoverL : l ∈ options.overrides
      · exact absurd heq.symm (h.targetName_ne hl hk hoverL hoverK)
      · exact absurd (h.apart hk hl hoverK hoverL heq) hne
  · intro k info hk hfree
    exact h.automatic (OrderedMap.mem_entries_iff.1 hk) hfree

end Session

end HeaderBindings
