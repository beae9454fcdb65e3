import HeaderBindings.Proofs.Session.Growth
import Mathlib.Data.List.Infix

/-!
# A run only extends its results

Between two headers nothing that a session shows is taken back. The types and the reports of earlier
headers come first and are followed by new ones, symbols keep their places in the index, and so do
headers in the package and bindings behind their header. What a visit opens and withdraws again, it
opens behind everything that was there, so that nothing moves.
-/

namespace HeaderBindings

/-! ### What is behind the entries that were there -/

namespace OrderedMap

variable {α β : Type} [DecidableEq α]

theorem keys_prefix_insert (m : OrderedMap α β) (k : α) (v : β) :
    m.keys <+: (m.insert k v).keys := by
  rw [keys_insert]
  split
  · exact List.prefix_rfl
  · exact List.prefix_append _ _

/-- Entries behind those of a map do not change what is stored in it. -/
theorem get?_of_prefix {m n : OrderedMap α β} (h : m.entries <+: n.entries) {k : α} {v : β}
    (hget : m.get? k = some v) : n.get? k = some v := by
  rw [← mem_entries_iff] at hget ⊢
  exact h.subset hget

end OrderedMap

/-- A registered type comes behind those that are there, or does not count. -/
theorem Registry.entries_prefix_register (r : Registry) (name : String) (type : DeclaredType) :
    r.entries <+: (r.register name type).entries := by
  by_cases h : name ∈ r
  · rw [register, if_pos h]
  · rw [register_of_not_mem h, OrderedMap.entries_insert_of_not_mem h]
    exact List.prefix_append _ _

namespace Package

theorem headers_prefix_pushAll (p : Package) (header : String) (added : List Binding) :
    p.byHeader.keys <+: (p.pushAll header added).byHeader.keys := by
  unfold pushAll
  induction added generalizing p with
  | nil => exact List.prefix_rfl
  | cons b rest ih =>
    have hpush : p.byHeader.keys <+: (p.push header b).byHeader.keys :=
      p.byHeader.keys_prefix_insert header _
    exact hpush.trans (ih (p.push header b))

theorem bound_prefix_pushAll (p : Package) (header other : String) (added : List Binding) :
    p.bound other <+: (p.pushAll header added).bound other := by
  rw [bound_pushAll]
  split
  · exact List.prefix_append _ _
  · exact List.prefix_rfl

end Package

namespace Session

variable {s t u : Session} {p : Place} {d : Decl}

/-! ### Sessions that extend others -/

/-- A session shows everything that an earlier one shows, in the same order, and what is new comes
last. -/
structure Extends (s t : Session) : Prop where
  types : s.types.entries <+: t.types.entries
  skipped : s.skipped <+: t.skipped
  symbols : s.symbols.keys <+: t.symbols.keys
  headers : s.package.byHeader.keys <+: t.package.byHeader.keys
  bound : ∀ header, s.package.bound header <+: t.package.bound header

namespace Extends

theorem refl (s : Session) : s.Extends s :=
  ⟨List.prefix_rfl, List.prefix_rfl, List.prefix_rfl, List.prefix_rfl, fun _ => List.prefix_rfl⟩

theorem trans (h : s.Extends t) (h' : t.Extends u) : s.Extends u where
  types := h.types.trans h'.types
  skipped := h.skipped.trans h'.skipped
  symbols := h.symbols.trans h'.symbols
  headers := h.headers.trans h'.headers
  bound header := (h.bound header).trans (h'.bound header)

theorem lengths (h : s.Extends t) :
    s.symbols.size ≤ t.symbols.size ∧ s.skipped.length ≤ t.skipped.length := by
  have hkeys : ∀ index : SymbolIndex, index.keys.length = index.size :=
    fun index => List.length_map _
  have hsymbols := h.symbols.length_le
  rw [hkeys, hkeys] at hsymbols
  exact ⟨hsymbols, h.skipped.length_le⟩

end Extends

/-! ### Visits and runs -/

/-- A visit reports a failure or nothing. -/
theorem Outcome.skipped_cases (h : Outcome s p d t) : t.skipped = s.skipped ∨
    ∃ label cause, s.FailsAt p d label cause ∧ t = s.skip p d label cause := by
  cases h with
  | failed hfails => exact .inr ⟨_, _, hfails, rfl⟩
  | passed | function => exact .inl rfl
  | takenRecord | takenTypedef =>
    obtain ⟨emitted, package, h⟩ := emitType_eq s p d _
    rw [h]
    exact .inl rfl
  | record | typedef =>
    obtain ⟨emitted, package, h⟩ := declareType_eq s p d _ _
    rw [h]
    exact .inl rfl
  | @enum name items values =>
    obtain ⟨package, h⟩ := bindEnumerators_eq (s.declareEnum p d name) p d name (items.zip values)
    obtain ⟨types, emitted, package', h'⟩ := declareEnum_eq s p d name
    rw [h, h']
    exact .inl rfl

theorem Outcome.skipped_eq (h : Outcome s p d t)
    (hok : ∀ label cause, ¬ s.FailsAt p d label cause) : t.skipped = s.skipped := by
  rcases h.skipped_cases with heq | ⟨label, cause, hfails, -⟩
  · exact heq
  · exact absurd hfails (hok label cause)

/-- A visit reports one failure at most, behind those that were reported before. -/
theorem Outcome.skipped_prefix (h : Outcome s p d t) : s.skipped <+: t.skipped := by
  rcases h.skipped_cases with heq | ⟨label, cause, -, rfl⟩
  · rw [heq]
  · rw [skip_eq]
    exact List.prefix_append _ _

/-- A visit writes one symbol at most, in its old place or behind the others. -/
theorem Outcome.symbols_prefix (h : Outcome s p d t) : s.symbols.keys <+: t.symbols.keys := by
  rcases h.eq_or_bindFunction with
    ⟨types, package, skipped, emitted, ht⟩ | ⟨f, signature, -, -, -, -, ht⟩
  · rw [ht]
  · rw [ht]
    exact s.symbols.keys_prefix_insert _ _

/-- **Every visit extends the session.** -/
theorem extends_visit (s : Session) (p : Place) (d : Decl) : s.Extends (s.visit p d) := by
  have h := outcome_visit s p d
  obtain ⟨added, hadded⟩ := h.package
  refine ⟨?_, h.skipped_prefix, h.symbols_prefix, ?_, ?_⟩
  · rcases h.types_eq with heq | ⟨target, type, heq⟩
    · rw [heq]
    · rw [heq]
      exact s.types.entries_prefix_register target type
  · rw [hadded]
    exact s.package.headers_prefix_pushAll p.file added
  · intro header
    rw [hadded]
    exact s.package.bound_prefix_pushAll p.file header added

theorem extends_visitAll (s : Session) (visits : List (Place × Decl)) :
    s.Extends (s.visitAll visits) :=
  visitAll_preserves (motive := s.Extends) (fun t p d h => h.trans (extends_visit t p d)) (.refl s)
    visits

/-- The end of some visits extends what each of their steps leaves. -/
theorem extends_after_of_mem_steps {visits : List (Place × Decl)} {v : Step}
    (h : v ∈ s.steps visits) : v.after.Extends (s.visitAll visits) := by
  obtain ⟨first, second, rfl, hsession⟩ := exists_visitAll_of_mem_steps h
  rw [visitAll_append, visitAll_cons, ← hsession]
  exact extends_visitAll v.after second

/-- The end of some visits extends the session of each of their steps. -/
theorem extends_of_mem_steps {visits : List (Place × Decl)} {v : Step} (h : v ∈ s.steps visits) :
    v.session.Extends (s.visitAll visits) :=
  (extends_visit v.session v.place v.decl).trans (extends_after_of_mem_steps h)

/-- A step extends what the steps before it leave. -/
theorem extends_of_step_before {visits : List (Place × Decl)} {before after : List Step}
    {v w : Step} (h : s.steps visits = before ++ v :: after) (hw : w ∈ after) :
    v.after.Extends w.session := by
  obtain ⟨first, second, rfl, rfl, hsession⟩ := exists_of_steps_eq h
  rw [steps_append, ← hsession] at h
  obtain ⟨-, hafter⟩ := List.cons.inj (List.append_cancel_left h)
  obtain ⟨between, rest, -, hbetween⟩ := exists_visitAll_of_mem_steps (hafter ▸ hw)
  rw [hbetween]
  exact extends_visitAll _ between

/-- **Walking through a header only extends the results.** Types, reports, symbols, headers and the
bindings of each header are followed by what is new and stay as they are, so that there are never
fewer symbols or reports than before; and a type that is registered when the walk ends is the same
after whatever headers follow. -/
theorem process_extends (s : Session) (u : HeaderUnit) :
    s.Extends (s.process u) ∧
    s.symbols.size ≤ (s.process u).symbols.size ∧
    s.skipped.length ≤ (s.process u).skipped.length ∧
    ∀ name type, (s.process u).types.get? name = some type →
      ∀ units, ((s.process u).processAll units).types.get? name = some type := by
  have h : s.Extends (s.process u) := by
    rw [process_eq_visitAll]
    exact extends_visitAll s u.visits
  refine ⟨h, h.lengths.1, h.lengths.2, ?_⟩
  intro name type hget units
  have hrun : (s.process u).Extends ((s.process u).processAll units) := by
    rw [processAll_eq_visitAll]
    exact extends_visitAll (s.process u) _
  exact OrderedMap.get?_of_prefix hrun.types hget

end Session

end HeaderBindings
