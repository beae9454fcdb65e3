import HeaderBindings.Proofs.Session.TypeOrder

/-!
# Walks that return

A visit ends unless it measures a type that contains itself by value, which only the fields of a
union can lead to (`Session.visitEnds`). A walk with such a visit never gets past it: nothing that
would be bound, reported or indexed behind it ever is, and there is no session to which the walk
leads.

## The relation

`Session.visitAll` folds the effects of visits and does not ask whether they end. The relation
`Session.Returns` does, visit after visit, and relates sessions only by walks that get to their end:

    s.Returns visits t ↔ (every visit on the way ends) ∧ t = s.visitAll visits

So there is at most one session to which a walk returns, and where it returns, `Session.process`
computes this session (`returns_iff`, `returns_process_iff`). Statements about what a walk has done
when it is over are about `Session.Returns`.

## When walks return

Measuring ends for a type exactly if the type has a layout (`Registry.isSome_layout?_iff_acc`). In a
run in which no record contains itself by value all types have one, so that all its walks return
(`returns_visitAll`).
-/

namespace HeaderBindings

namespace Converter

variable {c : Converter}

/-- **The conversion of a union ends exactly if each of its fields can be measured.** -/
theorem recordEnds_union_iff {body : List (Slot CType)} :
    c.recordEnds .union body ↔ ∀ fields, c.fields body = .ok fields →
      ∀ field ∈ fields, Acc c.types.MeasuredFor field.type := by
  cases hfields : c.fields body with
  | error cause => simp [recordEnds, hfields]
  | ok converted => simp [recordEnds, hfields, Registry.isSome_layout?_iff_acc]

theorem recordEnds_of_ne_union {tag : Tag} (h : tag ≠ .union) (body : List (Slot CType)) :
    c.recordEnds tag body := by
  cases tag with
  | union => exact absurd rfl h
  | _ => rfl

/-- Where measuring ends, the conversion of any record ends. -/
theorem recordEnds_of_wellFounded (h : WellFounded c.types.MeasuredFor) (tag : Tag)
    (body : List (Slot CType)) : c.recordEnds tag body := by
  by_cases htag : tag = .union
  · rw [htag, recordEnds_union_iff]
    exact fun _ _ field _ => h.apply field.type
  · exact recordEnds_of_ne_union htag body

end Converter

namespace Session

variable {s t : Session} {visits : List (Place × Decl)}

/-- The visits end, one after the other, and lead to a session. -/
inductive Returns : Session → List (Place × Decl) → Session → Prop where
  | nil (s : Session) : Returns s [] s
  | cons {s t : Session} {v : Place × Decl} {rest : List (Place × Decl)} :
    s.visitEnds v.2 → Returns (s.visit v.1 v.2) rest t → Returns s (v :: rest) t

/-- **Visits return exactly if all of them end**, and then to the session that they fold to. -/
theorem returns_iff : s.Returns visits t ↔
    (∀ v ∈ s.steps visits, v.session.visitEnds v.decl) ∧ t = s.visitAll visits := by
  constructor
  · intro h
    induction h with
    | nil s => exact ⟨List.forall_mem_nil _, rfl⟩
    | cons hends _ ih => exact ⟨List.forall_mem_cons.2 ⟨hends, ih.1⟩, ih.2⟩
  · rintro ⟨hends, rfl⟩
    induction visits generalizing s with
    | nil => exact .nil s
    | cons v rest ih =>
      obtain ⟨hfirst, hrest⟩ := List.forall_mem_cons.1 hends
      exact .cons hfirst (ih hrest)

theorem Returns.eq_visitAll (h : s.Returns visits t) : t = s.visitAll visits := (returns_iff.1 h).2

/-- **A walk through a header returns to the session that is computed for it**, if it returns. -/
theorem returns_process_iff {u : HeaderUnit} : s.Returns u.visits t ↔
    (∀ v ∈ s.steps u.visits, v.session.visitEnds v.decl) ∧ t = s.process u := by
  rw [process_eq_visitAll]
  exact returns_iff

/-! ### When visits end -/

/-- A visit ends in every session whose types are in order, even if it puts them out of order: a
record that is open contains nothing yet. -/
theorem visitEnds_of_layered (h : s.types.Layered) (d : Decl) : s.visitEnds d := by
  unfold visitEnds
  split
  · next name tag body _ =>
    have hends := Converter.recordEnds_of_wellFounded
      (c := (s.openRecord (s.rules.typeName name)).converter)
      (layered_openRecord h (s.rules.typeName name)).wellFounded tag body
    dsimp only
    rw [hends, Bool.or_true]
  · rfl

/-- **Visits in which no record contains itself return.** -/
theorem returns_visitAll (h : s.types.Layered) (hself : ∀ v ∈ s.steps visits, ¬ v.containsItself) :
    s.Returns visits (s.visitAll visits) := by
  refine returns_iff.2 ⟨fun v hv => visitEnds_of_layered ?_ v.decl, rfl⟩
  obtain ⟨before, after, heq⟩ := List.append_of_mem hv
  obtain ⟨first, second, rfl, hbefore, hsession⟩ := exists_of_steps_eq heq
  rw [hsession]
  refine layered_visitAll h fun w hw => hself w ?_
  rw [steps_append]
  exact List.mem_append_left _ hw

/-- The header `struct foo { struct Foo { int x; } inner; int y; }; union u { struct foo f; int i;
};`. Both structs have the target name `Foo`, so that the field of the outer one is taken for
itself. -/
def knotUnit : HeaderUnit where
  path := "cell.h"
  decls := [
    { cellRecord "foo" .struct [⟨some "inner", cellReference "Foo"⟩, ⟨some "y", .builtin .int⟩] with
      children := [cellRecord "Foo" .struct [⟨some "x", .builtin .int⟩]] },
    cellRecord "u" .union [⟨some "f", cellReference "foo"⟩, ⟨some "i", .builtin .int⟩]]

-- the outer struct is registered unmeasured; measuring it for the union never ends
example : ¬ ∃ t, (start {}).Returns knotUnit.visits t := by
  rintro ⟨t, h⟩
  have hknot : ¬ ∀ v ∈ (start {}).steps knotUnit.visits, v.session.visitEnds v.decl := by
    decide +kernel
  exact hknot (returns_iff.1 h).1

end Session

end HeaderBindings
