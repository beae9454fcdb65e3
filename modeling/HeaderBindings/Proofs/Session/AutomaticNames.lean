import HeaderBindings.Proofs.Session.Redeclaration

/-!
# No automatic name is given twice

A run gives automatic names to the functions whose symbols have no override. A symbol that is
declared again gets a second name and loses its first one, but neither of them is ever given to
another function: the names of a run differ from each other, whether they are still in the index at
its end or not (`automaticNames_once`).

The index alone cannot show this, since it holds one name for each symbol and a redeclared symbol
has lost its earlier ones. So the names are collected along the steps of the run, each with the
symbol to which it was given (`automaticNames`), and the invariant `Given` connects the collection
with the session: all collected names are taken in the counter, they differ, and what the index
holds without an override is among them. A new name is one that was not taken, which is all that a
step has to show.
-/

namespace HeaderBindings.Session

/-! ### The names of a run

A step gives an automatic name if it names a function and the symbol of the function is not
overridden.
-/

/-- The symbol and the target name of a function that a step indexes without an override. -/
def Step.automatic? (v : Step) : Option (String × String) := do
  let write ← v.write?
  -- what is overridden claims no name
  let _ ← write.claimed
  let info ← v.after.symbols.get? write.symbol
  return (write.symbol, info.targetName)

/-- The automatic names that a run gives, each with its symbol, in the order in which they are
given. -/
def automaticNames (options : SessionOptions) (units : List HeaderUnit) : List (String × String) :=
  ((start options).steps (units.flatMap HeaderUnit.visits)).filterMap Step.automatic?

/-- What is overridden claims no name. -/
theorem claimed_writeOf_of_override {s : Session} {p : Place} {f : FunctionDecl} {target : String}
    (h : s.overrides.get? (s.writeOf p f).symbol = some target) :
    (s.writeOf p f).claimed = none := by
  unfold writeOf at h ⊢
  dsimp only at h ⊢
  rw [h]

/-- What is not overridden claims its candidate name. -/
theorem claimed_writeOf_of_free {s : Session} {p : Place} {f : FunctionDecl}
    (h : s.overrides.get? (s.writeOf p f).symbol = none) :
    (s.writeOf p f).claimed = some (s.candidateName p f) := by
  unfold writeOf at h ⊢
  dsimp only at h ⊢
  rw [h]

namespace Step

variable {v : Step} {f : FunctionDecl} {signature : Signature TargetType}

/-- The name that a step gives to a function, if none is given by an override. -/
theorem automatic?_of_names (h : v.Names f signature) :
    v.automatic? = (v.session.writeOf v.place f).claimed.map fun _ =>
      ((v.session.writeOf v.place f).symbol,
        (v.session.nameFunction v.place (v.session.writeOf v.place f).symbol f).1) := by
  have hindexed : v.after.symbols.get? (v.session.writeOf v.place f).symbol =
      some ⟨(v.session.nameFunction v.place (v.session.writeOf v.place f).symbol f).1,
        v.place.qualified f.displayName⟩ := by
    rw [after_eq_bindFunction h, bindFunction]
    dsimp only
    rw [OrderedMap.get?_insert]
    exact if_pos rfl
  rw [automatic?, write?_eq_some h]
  show ((v.session.writeOf v.place f).claimed.bind fun _ =>
    (v.after.symbols.get? (v.session.writeOf v.place f).symbol).bind fun info =>
      some ((v.session.writeOf v.place f).symbol, info.targetName)) = _
  rw [hindexed]
  cases (v.session.writeOf v.place f).claimed <;> rfl

/-- A step that names no function gives no name. -/
theorem automatic?_of_not_names (h : ∀ f signature, ¬ v.Names f signature) :
    v.automatic? = none := by
  rw [automatic?, write?_eq_none h]
  rfl

end Step

/-! ### The invariant

It holds at the start, where nothing is given, and each step keeps it: only a step that indexes a
function touches the counter or the index.
-/

/-- Names that have been given up to some session, among them all that its index holds for symbols
without an override. -/
structure Given (s : Session) (names : List (String × String)) : Prop where
  taken : ∀ e ∈ names, e.2 ∈ s.counter.taken
  nodup : (names.map Prod.snd).Nodup
  indexed : ∀ {k info}, s.symbols.get? k = some info → s.overrides.get? k = none →
    (k, info.targetName) ∈ names

namespace Given

variable {names : List (String × String)} {s : Session}

/-- At the start no name is given. -/
theorem start (options : SessionOptions) : Given (start options) [] :=
  ⟨nofun, List.nodup_nil, nofun⟩

/-- A function whose symbol is overridden gets no new name. -/
theorem bindFunction_of_override (h : Given s names) {p : Place} {f : FunctionDecl}
    {target : String} (hget : s.overrides.get? (s.writeOf p f).symbol = some target) (d : Decl)
    (signature : Signature TargetType) : Given (s.bindFunction p d f signature) names := by
  unfold writeOf at hget
  dsimp only at hget
  unfold bindFunction nameFunction
  dsimp only
  rw [hget]
  refine ⟨h.taken, h.nodup, ?_⟩
  intro k info hk hfree
  rw [OrderedMap.get?_insert] at hk
  split at hk
  · next heq =>
    rw [heq, hget] at hfree
    cases hfree
  · exact h.indexed hk hfree

/-- A function whose symbol is not overridden gets a name that was not given before. -/
theorem bindFunction_of_free (h : Given s names) {p : Place} {f : FunctionDecl}
    (hget : s.overrides.get? (s.writeOf p f).symbol = none) (d : Decl)
    (signature : Signature TargetType) :
    Given (s.bindFunction p d f signature)
      (names ++ [((s.writeOf p f).symbol, (s.counter.claim (s.candidateName p f)).1)]) := by
  have hnew := NameCounter.claim_not_mem s.counter (s.candidateName p f)
  unfold writeOf at hget ⊢
  dsimp only at hget ⊢
  unfold bindFunction
  dsimp only
  rw [nameFunction_eq_claim hget]
  refine ⟨?_, ?_, ?_⟩
  · intro e he
    rw [NameCounter.taken_claim]
    rcases List.mem_append.1 he with he | he
    · exact List.mem_cons_of_mem _ (h.taken e he)
    · rw [List.mem_singleton.1 he]
      exact List.mem_cons_self
  · rw [List.map_append, List.nodup_append]
    refine ⟨h.nodup, List.nodup_cons.2 ⟨List.not_mem_nil, List.nodup_nil⟩, ?_⟩
    intro name hname claimed hclaimed heq
    obtain ⟨e, he, rfl⟩ := List.mem_map.1 hname
    -- what was given before is taken, and so it is not claimed now
    have htaken := h.taken e he
    rw [heq, List.mem_singleton.1 hclaimed] at htaken
    exact hnew htaken
  · intro k info hk hfree
    rw [OrderedMap.get?_insert] at hk
    split at hk
    · next heq =>
      cases hk
      rw [heq]
      exact List.mem_append_right names List.mem_cons_self
    · exact List.mem_append_left _ (h.indexed hk hfree)

/-- **A step gives no name that was given before.** -/
theorem after {v : Step} (h : Given v.session names) :
    Given v.after (names ++ v.automatic?.toList) := by
  by_cases hnames : ∃ f signature, v.Names f signature
  · obtain ⟨f, signature, hnames⟩ := hnames
    rw [Step.after_eq_bindFunction hnames]
    cases hget : v.session.overrides.get? (v.session.writeOf v.place f).symbol with
    | some target =>
      rw [Step.automatic?_of_names hnames, claimed_writeOf_of_override hget, Option.map_none,
        Option.toList_none, List.append_nil]
      exact h.bindFunction_of_override hget v.decl signature
    | none =>
      rw [Step.automatic?_of_names hnames, claimed_writeOf_of_free hget, nameFunction_eq_claim hget]
      exact h.bindFunction_of_free hget v.decl signature
  · have hnone : ∀ f signature, ¬ v.Names f signature :=
      fun f signature h => hnames ⟨f, signature, h⟩
    obtain ⟨types, package, skipped, emitted, hafter⟩ := Step.after_of_not_names hnone
    rw [Step.automatic?_of_not_names hnone, Option.toList_none, List.append_nil, hafter]
    exact ⟨h.taken, h.nodup, h.indexed⟩

/-- **The names of a run**, by induction on its steps. -/
theorem processAll (options : SessionOptions) (units : List HeaderUnit) :
    Given ((Session.start options).processAll units) (automaticNames options units) := by
  rw [processAll_eq_visitAll]
  refine steps_induction (motive := fun before s => Given s (before.filterMap Step.automatic?))
    (Given.start options) ?_
  intro before v _ h
  have hlast : [v].filterMap Step.automatic? = v.automatic?.toList := by
    rw [List.filterMap_cons]
    cases v.automatic? <;> rfl
  rw [List.filterMap_append, hlast]
  exact h.after

end Given

/-- **A symbol without an override has a name that no other function of the run is given**, whether
the name of that function is still in the index or not. -/
theorem automaticNames_once (options : SessionOptions) (units : List HeaderUnit) {k : String}
    {info : SymbolInfo} (hk : ((start options).processAll units).symbols.get? k = some info)
    (hfree : options.overrides.get? k = none) :
    ∃ before after, automaticNames options units = before ++ (k, info.targetName) :: after ∧
      ∀ e ∈ before ++ after, e.2 ≠ info.targetName := by
  have hgiven := Given.processAll options units
  have hmem : (k, info.targetName) ∈ automaticNames options units := by
    apply hgiven.indexed hk
    rw [overrides_processAll]
    exact hfree
  obtain ⟨before, after, heq⟩ := List.append_of_mem hmem
  refine ⟨before, after, heq, ?_⟩
  have hnodup := hgiven.nodup
  rw [heq, List.map_append, List.map_cons, List.nodup_append, List.nodup_cons] at hnodup
  obtain ⟨-, ⟨hafter, -⟩, hbefore⟩ := hnodup
  intro e he hname
  rcases List.mem_append.1 he with he | he
  · exact hbefore _ (List.mem_map_of_mem he) _ List.mem_cons_self hname
  · have hmem := List.mem_map_of_mem (f := Prod.snd) he
    rw [hname] at hmem
    exact hafter hmem

end HeaderBindings.Session
