import HeaderBindings.Proofs.Session.DeclaredTypes
import HeaderBindings.Proofs.Session.Visits
import HeaderBindings.Proofs.Target.Measuring

/-!
# Types contain what is registered before them

A name in a converted type is registered when the type is converted, and a type is registered behind
all others. So types contain by value only names that are registered before them, with one
exception: the name of a record is registered before its fields are converted. A run in which no
record contains itself by value never leaves the order, neither between visits nor while a record is
open, and all types can be measured in it (`measuring_ends`).
-/

namespace HeaderBindings.Session

variable {s : Session}

/-- A step registers a record with a field whose converted type contains the record by value. -/
def Step.containsItself (v : Step) : Bool :=
  match v.decl.kind with
  | .record name tag body =>
    let target := v.session.rules.typeName name
    name ≠ "" && target ∉ v.session.types &&
      match (v.session.openRecord target).converter.record tag body with
      | .ok fields => fields.any fun field => target ∈ field.type.byValue
      | .error _ => false
  | _ => false

/-- A type that contains its own name by value is that of a record: an alias is converted while its
name is free, and an enumeration contains no names. -/
theorem Step.containsItself_of_registers {v : Step} {target : String} {type : DeclaredType}
    (htarget : v.session.declaredType? v.decl = some target) (hfree : target ∉ v.session.types)
    (h : v.session.RegistersAs v.decl target type) (hself : target ∈ type.underlying.byValue) :
    v.containsItself := by
  cases h with
  | @record name tag body fields hkind hok =>
    unfold declaredType? at htarget
    rw [hkind] at htarget
    dsimp only at htarget
    split at htarget
    · cases htarget
    · next hname =>
      cases htarget
      obtain ⟨field, hfield, hself⟩ := TargetType.mem_byValues_iff.1 hself
      have hany : (fields.any fun field =>
          v.session.rules.typeName name ∈ field.type.byValue) = true :=
        List.any_eq_true.2 ⟨field, hfield, decide_eq_true hself⟩
      unfold containsItself
      rw [hkind]
      simp only [hok, hany, Bool.and_true, Bool.and_eq_true, decide_eq_true_eq]
      exact ⟨hname, hfree⟩
  | typedef hkind hok =>
    have hmentions := TargetType.mentions_of_mem_byValue _ hself
    exact absurd (Converter.mem_of_type_mentions hok hmentions) hfree
  | enum => cases hself

/-! ### Visits and runs -/

theorem layered_openRecord (h : s.types.Layered) (target : String) :
    (s.openRecord target).types.Layered :=
  -- an open record contains nothing yet
  h.register fun _ hn => nomatch hn

/-- **A step in which no record contains itself keeps the types in order.** -/
theorem layered_after {v : Step} (h : v.session.types.Layered) (hself : ¬ v.containsItself) :
    v.after.types.Layered := by
  have houtcome : Outcome v.session v.place v.decl v.after := outcome_visit _ _ _
  rcases houtcome.registration with hsame | ⟨target, type, htarget, hfree, hregisters, hmore⟩
  · rw [hsame]
    exact h
  · rw [hmore]
    refine h.register fun n hn => ?_
    have hmentions := TargetType.mentions_of_mem_byValue type.underlying hn
    -- only a record that contains itself can be registered with a name that is not there yet
    refine (hregisters.mem_of_mentions hmentions).resolve_left ?_
    rintro rfl
    exact hself (Step.containsItself_of_registers htarget hfree hregisters hn)

/-- **Visits in which no record contains itself keep the types in order.** -/
theorem layered_visitAll (h : s.types.Layered) {visits : List (Place × Decl)}
    (hself : ∀ v ∈ s.steps visits, ¬ v.containsItself) : (s.visitAll visits).types.Layered :=
  steps_induction (motive := fun _ t => t.types.Layered) h
    fun _ v hv hlayered => layered_after hlayered (hself v hv)

/-- The registries through which visits go: those between two visits, and those with an open record,
in which its fields are converted. -/
inductive GoesThrough (s : Session) (visits : List (Place × Decl)) : Registry → Prop where
  | between {first second : List (Place × Decl)} : visits = first ++ second →
    GoesThrough s visits (s.visitAll first).types
  | opened {first second : List (Place × Decl)} (target : String) : visits = first ++ second →
    GoesThrough s visits ((s.visitAll first).openRecord target).types

/-- **All registries through which visits go are in order**, if no record contains itself. -/
theorem GoesThrough.layered {visits : List (Place × Decl)} {r : Registry}
    (hr : s.GoesThrough visits r) (h : s.types.Layered)
    (hself : ∀ v ∈ s.steps visits, ¬ v.containsItself) : r.Layered := by
  have hfirst : ∀ first second, visits = first ++ second → (s.visitAll first).types.Layered := by
    rintro first second rfl
    -- the steps of the first visits are the first steps
    rw [steps_append] at hself
    exact layered_visitAll h fun v hv => hself v (List.mem_append_left _ hv)
  cases hr with
  | between hvisits => exact hfirst _ _ hvisits
  | opened target hvisits => exact layered_openRecord (hfirst _ _ hvisits) target

/-- **Types can always be measured.**

In a run in which no record is registered with a field whose converted type contains the record
itself by value, every registry through which the run goes is in order: what a type contains by
value is registered before it. So measuring a type leads to others that have to be measured, but
never without end. Every type has a layout, registered or not, and a name has that of the type
registered under it, so that the bound on how deep names are followed does not show. -/
theorem measuring_ends (options : SessionOptions) (units : List HeaderUnit)
    (hself : ∀ v ∈ (start options).steps (units.flatMap HeaderUnit.visits), ¬ v.containsItself)
    {r : Registry} (hr : (start options).GoesThrough (units.flatMap HeaderUnit.visits) r) :
    r.Layered ∧ WellFounded r.MeasuredFor ∧
    (∀ type, ∃ layout, r.layout? type = some layout) ∧
    ∀ name declared, r.get? name = some declared →
      r.layout? (.named name) = r.layout? declared.underlying := by
  have hstart : (start options).types.Layered := fun i name declared h => nomatch h
  have h := hr.layered hstart hself
  refine ⟨h, h.wellFounded, ?_, fun name declared hget => h.layout?_named hget⟩
  intro type
  obtain ⟨layout, hlayout⟩ := h.exists_layout? type
  exact ⟨layout, hlayout r.size (Nat.le_refl _)⟩

def cellRecord (name : String) (tag : Tag) (fields : List (Slot CType)) : Decl where
  kind := .record name tag fields
  location := { file := some "cell.h" }

def cellReference (name : String) : CType := .named { name, tag := some .struct }

/-- A struct that points to itself, one with an array of these, and a union with one of those. -/
def cellUnit : HeaderUnit where
  path := "cell.h"
  decls := [
    cellRecord "node" .struct
      [⟨some "value", .builtin .int⟩, ⟨some "next", .pointer (cellReference "node")⟩],
    cellRecord "pair" .struct [⟨some "nodes", .array (cellReference "node") (some (.ofInt64 2))⟩],
    cellRecord "cell" .union
      [⟨some "number", .builtin .double⟩, ⟨some "pair", cellReference "pair"⟩]]

def cellTypes : Registry := ((start {}).visitAll ([cellUnit].flatMap HeaderUnit.visits)).types

theorem measuring_ends_cell :
    (∀ v ∈ (start {}).steps ([cellUnit].flatMap HeaderUnit.visits), ¬ v.containsItself) ∧
    (start {}).GoesThrough ([cellUnit].flatMap HeaderUnit.visits) cellTypes ∧
    cellTypes.Layered ∧ WellFounded cellTypes.MeasuredFor ∧
    cellTypes.get? "Cell" = some ⟨.struct, .struct [⟨some "pair", .named "Pair"⟩]⟩ ∧
    cellTypes.layout? (.named "Cell") = some ⟨32, 8⟩ := by
  have hself : ∀ v ∈ (start {}).steps ([cellUnit].flatMap HeaderUnit.visits),
      ¬ v.containsItself := by decide +kernel
  have hr : (start {}).GoesThrough ([cellUnit].flatMap HeaderUnit.visits) cellTypes :=
    .between (List.append_nil _).symm
  obtain ⟨hlayered, hends, -, hnamed⟩ := measuring_ends {} [cellUnit] hself hr
  have hcell : cellTypes.get? "Cell" = some ⟨.struct, .struct [⟨some "pair", .named "Pair"⟩]⟩ := by
    rfl
  refine ⟨hself, hr, hlayered, hends, hcell, ?_⟩
  rw [hnamed "Cell" _ hcell]
  decide +kernel

end HeaderBindings.Session
