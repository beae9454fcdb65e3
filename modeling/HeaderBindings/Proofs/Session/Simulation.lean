import HeaderBindings.Proofs.Conversion.Trimming
import HeaderBindings.Proofs.Session.Visits

/-!
# Two runs over the same headers

A visit is put together from few steps: it changes the registered types, reports a failure, binds a
type, names and binds a function, or binds enumerators. Which of them it takes depends on the
registered types and on what the rules trim, and on nothing else. So two runs stay related if
related sessions convert alike and each step keeps them related.

## What has to be shown of a relation

| premise of `Simulation` | what it is about |
|---|---|
| `alike` | the branches of a visit: which types are registered, how names are trimmed |
| `withTypes` | registering, opening, completing and withdrawing types |
| `skip` | the reports of declarations that are passed over |
| `emitType` | the bindings of types, and the types that count as bound |
| `bindFunction` | the counter of names, the index of symbols and the bindings of functions |
| `bindEnumerators` | the bindings of enumerators |

The premises are about single functions that have no branches of their own that matter here, so a
relation is checked against them one field of the session at a time. In return, whole visits, walks
and runs keep the relation, without a second look at the branches: `Simulation.visit`,
`Simulation.walk` and `Simulation.processAll`.

## Where it is used

* Sessions of which one has earlier reports in front of its own (`simulation_precededBy`): no visit
  looks at the reports.
* Sessions that differ in the names of functions and in what chooses these names
  (`AlikeButNames.simulation`): no visit looks at them, either.
* Sessions that convert alike, whatever else is different in them (`simulation_convertAlike`). This
  tells that the registered types depend on the types alone.
-/

namespace HeaderBindings.Session

variable {s t : Session}

/-! ### Sessions that convert alike

The converter of a session consists of the rules for names and of the registered types, and it
applies the rules to names of types only, for which they trim and nothing else. So all its results
are determined by what is compared here.
-/

/-- Two sessions whose conversions give the same results. -/
structure ConvertAlike (s t : Session) : Prop where
  trim : s.rules.trim = t.rules.trim
  types : s.types = t.types

namespace ConvertAlike

theorem typeName (h : ConvertAlike s t) : s.rules.typeName = t.rules.typeName :=
  PrefixRules.typeName_congr h.trim

theorem signature (h : ConvertAlike s t) (f : Prototype CType) :
    s.converter.signature f = t.converter.signature f := by
  unfold converter
  rw [h.types]
  exact Converter.signature_congr h.trim t.types f

theorem type (h : ConvertAlike s t) (ctype : CType) :
    s.converter.type false ctype = t.converter.type false ctype := by
  unfold converter
  rw [h.types]
  exact Converter.type_congr h.trim t.types false ctype

theorem record (h : ConvertAlike s t) (tag : Tag) (body : List (Slot CType)) :
    s.converter.record tag body = t.converter.record tag body := by
  unfold converter
  rw [h.types]
  exact Converter.record_congr h.trim t.types tag body

theorem renamesTag (h : ConvertAlike s t) (target : String) (ctype : CType) :
    s.renamesTag target ctype = t.renamesTag target ctype := by
  unfold Session.renamesTag
  rw [h.typeName]

theorem enumeratorName (h : ConvertAlike s t) (enum : Option String) (name : String) :
    s.enumeratorName enum name = t.enumeratorName enum name := by
  unfold Session.enumeratorName
  rw [h.trim]

end ConvertAlike

/-! ### Relations that every step keeps

The steps of a visit that touch the registered types compute the new types from the old ones. As
these are the same in related sessions, one premise about setting the types is enough for all of
them.
-/

/-- A relation under which sessions convert alike, and which every step of a visit keeps. -/
structure Simulation (related : Session → Session → Prop) : Prop where
  alike : ∀ {s t}, related s t → ConvertAlike s t
  withTypes : ∀ {s t}, related s t → ∀ types,
    related { s with types := types } { t with types := types }
  skip : ∀ {s t}, related s t → ∀ p d label cause,
    related (s.skip p d label cause) (t.skip p d label cause)
  emitType : ∀ {s t}, related s t → ∀ p d target,
    related (s.emitType p d target) (t.emitType p d target)
  bindFunction : ∀ {s t}, related s t → ∀ p d f signature,
    related (s.bindFunction p d f signature) (t.bindFunction p d f signature)
  bindEnumerators : ∀ {s t}, related s t → ∀ p d name items,
    related (s.bindEnumerators p d name items) (t.bindEnumerators p d name items)

namespace Simulation

variable {related : Session → Session → Prop} (h : Simulation related)

include h

theorem declareType (hst : related s t) (p : Place) (d : Decl) (target : String)
    (type : DeclaredType) :
    related (s.declareType p d target type) (t.declareType p d target type) := by
  have hregistered := h.withTypes hst (s.types.register target type)
  unfold Session.declareType
  rw [← (h.alike hst).types]
  exact h.emitType hregistered p d target

theorem openRecord (hst : related s t) (target : String) :
    related (s.openRecord target) (t.openRecord target) := by
  unfold Session.openRecord
  rw [← (h.alike hst).types]
  exact h.withTypes hst _

theorem completeRecord (hst : related s t) (target : String) (fields : List (Slot TargetType)) :
    related (s.completeRecord target fields) (t.completeRecord target fields) := by
  unfold Session.completeRecord
  rw [← (h.alike hst).types]
  exact h.withTypes hst _

theorem withdrawRecord (hst : related s t) (target : String) :
    related (s.withdrawRecord target) (t.withdrawRecord target) := by
  unfold Session.withdrawRecord
  rw [← (h.alike hst).types]
  exact h.withTypes hst _

theorem declareEnum (hst : related s t) (p : Place) (d : Decl) (name : Option String) :
    related (s.declareEnum p d name) (t.declareEnum p d name) := by
  unfold Session.declareEnum
  rw [(h.alike hst).typeName]
  split
  · exact h.declareType hst p d _ _
  · exact hst

/-! ### Visits and runs

Each of the functions for a kind of declaration asks for what is registered and for what conversions
give. Both questions have the same answers in related sessions, so that both visits take the same
branch, and a branch is a sequence of steps.
-/

/-- A function fails in both sessions, with the same report, or it is bound in both. -/
theorem visitFunction (hst : related s t) (p : Place) (d : Decl) (f : FunctionDecl) :
    related (s.visitFunction p d f) (t.visitFunction p d f) := by
  unfold Session.visitFunction
  rw [(h.alike hst).signature]
  split
  · split
    · exact h.skip hst p d _ _
    · exact h.bindFunction hst p d f _
  · exact hst

/-- A record is opened in both sessions, and its fields are converted alike. Then it is completed
and bound, or withdrawn and reported. -/
theorem visitRecord (hst : related s t) (p : Place) (d : Decl) (name : String) (tag : Tag)
    (body : List (Slot CType)) :
    related (s.visitRecord p d name tag body) (t.visitRecord p d name tag body) := by
  have hmem : t.rules.typeName name ∈ s.types ↔ t.rules.typeName name ∈ t.types := by
    rw [(h.alike hst).types]
  -- the fields are converted while the record is open, so the open sessions have to convert alike
  have hopened := h.openRecord hst (t.rules.typeName name)
  unfold Session.visitRecord
  rw [(h.alike hst).typeName]
  simp only [hmem]
  rw [(h.alike hopened).record]
  split
  · exact hst
  · split
    · exact h.emitType hst p d _
    · split
      · exact h.emitType (h.completeRecord hopened _ _) p d _
      · exact h.skip (h.withdrawRecord hopened _) p d _ _

theorem visitTypedef (hst : related s t) (p : Place) (d : Decl) (name : String)
    (underlying : CType) :
    related (s.visitTypedef p d name underlying) (t.visitTypedef p d name underlying) := by
  have hmem : t.rules.typeName name ∈ s.types ↔ t.rules.typeName name ∈ t.types := by
    rw [(h.alike hst).types]
  unfold Session.visitTypedef
  rw [(h.alike hst).trim, (h.alike hst).typeName]
  simp only [hmem]
  rw [(h.alike hst).renamesTag, (h.alike hst).type]
  split
  · exact hst
  · split
    · exact h.emitType hst p d _
    · split
      · exact h.skip hst p d _ _
      · split
        · split
          · exact hst
          · exact h.declareType hst p d _ _
        · exact h.declareType hst p d _ _

/-- **Every visit keeps sessions related.** -/
theorem visit (hst : related s t) (p : Place) (d : Decl) : related (s.visit p d) (t.visit p d) := by
  unfold Session.visit
  split
  · exact h.visitRecord hst p d _ _ _
  · exact h.visitFunction hst p d _
  · unfold Session.visitEnum
    split
    · exact h.skip hst p d _ _
    · exact h.bindEnumerators (h.declareEnum hst p d _) p d _ _
  · exact h.visitTypedef hst p d _ _
  · exact hst
  · exact hst
  · exact hst

theorem visitAll (hst : related s t) (visits : List (Place × Decl)) :
    related (s.visitAll visits) (t.visitAll visits) := by
  induction visits generalizing s t with
  | nil => exact hst
  | cons v rest ih =>
    rw [visitAll_cons, visitAll_cons]
    exact ih (h.visit hst v.1 v.2)

/-- **Every walk keeps sessions related.** -/
theorem walk (hst : related s t) (p : Place) (ds : List Decl) :
    related (walk p s ds) (walk p t ds) := by
  rw [walk_eq_visitAll, walk_eq_visitAll]
  exact h.visitAll hst _

/-- **Every run keeps sessions related.** -/
theorem processAll (hst : related s t) (units : List HeaderUnit) :
    related (s.processAll units) (t.processAll units) := by
  rw [processAll_eq_visitAll, processAll_eq_visitAll]
  exact h.visitAll hst _

end Simulation

end HeaderBindings.Session
