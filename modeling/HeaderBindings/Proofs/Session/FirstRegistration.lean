import HeaderBindings.Proofs.Session.Registration

/-!
# The first declaration of a type decides

Different source names may have one target name: a tag `foo` and a typedef `Foo`, or a struct that
is only announced in one header and defined in another. The target name is registered once, as what
the first of these declarations that can be converted is converted to, and later declarations
neither change this nor are they reported. So the registered type of a declaration is its own
conversion exactly as long as nothing else was registered under the name before.

A typical case is a header that only announces `struct foo;` and is walked before the header that
defines it. The announced struct is registered as a struct without fields, and the definition finds
the name taken. Nothing is reported, as a declaration whose name is registered counts as known, and
its fields are not converted. The theorem says of every quiet declaration what its name stands for
afterwards, and when that is its own conversion.
-/

namespace HeaderBindings.Session

variable {s : Session} {p : Place} {d : Decl} {target : String} {type : DeclaredType}

/-- A session converts a declaration to one type. -/
theorem RegistersAs.functional {other : DeclaredType} (h : s.RegistersAs d target type)
    (h' : s.RegistersAs d target other) : type = other := by
  cases h with
  | record hkind hok =>
    cases h' with
    | record hkind' hok' =>
      cases hkind.symm.trans hkind'
      cases hok.symm.trans hok'
      rfl
    | typedef hkind' | enum hkind' => cases hkind.symm.trans hkind'
  | typedef hkind hok =>
    cases h' with
    | typedef hkind' hok' =>
      cases hkind.symm.trans hkind'
      cases hok.symm.trans hok'
      rfl
    | record hkind' | enum hkind' => cases hkind.symm.trans hkind'
  | enum hkind =>
    cases h' with
    | enum => rfl
    | record hkind' | typedef hkind' => cases hkind.symm.trans hkind'

/-! ### Visits without a report

A declaration of the header whose conversion fails is reported by its visit. So a quiet visit is one
of a declaration that can be converted.
-/

/-- A declaration of the header itself whose visit reports nothing can be converted. -/
theorem not_failsAt_of_quiet (hholds : p.holds d) (hquiet : (s.visit p d).skipped = s.skipped)
    (label : String) (cause : ConversionError) : ¬ s.FailsAt p d label cause := by
  intro hfails
  rw [visit_of_failsAt hfails, skip_eq, if_pos hholds] at hquiet
  have hlength := congrArg List.length hquiet
  rw [List.length_append] at hlength
  simp at hlength

/-- After the visit of a declaration that can be converted its name is registered. -/
theorem mem_types_after {v : Step} (hdeclared : v.session.declaredType? v.decl = some target)
    (hok : ∀ label cause, ¬ v.session.FailsAt v.place v.decl label cause) :
    target ∈ v.after.types :=
  (outcome_visit v.session v.place v.decl).mem_of_declared hdeclared hok

/-! ### The step that registers a type

A name is registered at most once in a run, as a registered name is not registered again and no
visit takes it back. The step that does it divides the run: the declarations of the name before it
fail, and those behind it find the name taken.
-/

namespace Step.Registers

variable {visits : List (Place × Decl)} {v w : Step}

/-- What a step registers is found when it ends. -/
theorem get?_after (h : w.Registers target type) : w.after.types.get? target = some type := by
  rw [h.types_eq, Registry.get?_register, if_pos ⟨rfl, h.free⟩]

/-- **Earlier declarations of the name fail**: otherwise it would not have been free. -/
theorem failsAt_of_before {earlier later : List Step} (h : w.Registers target type)
    (hsteps : s.steps visits = earlier ++ w :: later) {u : Step} (hu : u ∈ earlier)
    (hdeclared : u.session.declaredType? u.decl = some target) :
    ∃ label cause, u.session.FailsAt u.place u.decl label cause := by
  obtain ⟨before, between, rfl⟩ := List.append_of_mem hu
  rw [List.append_assoc, List.cons_append] at hsteps
  by_contra hfails
  simp only [not_exists] at hfails
  obtain ⟨found, hfound⟩ := OrderedMap.exists_get?_of_mem (mem_types_after hdeclared hfails)
  have hextends := extends_of_step_before hsteps (List.mem_append_right between List.mem_cons_self)
  exact h.free (OrderedMap.mem_of_get? (OrderedMap.get?_of_prefix hextends.types hfound))

/-- A step that finds the name free does not come later. -/
theorem not_mem_after {earlier later : List Step} (h : w.Registers target type)
    (hsteps : s.steps visits = earlier ++ w :: later) (hfree : target ∉ v.session.types) :
    v ∉ later := by
  intro hv
  have hextends := extends_of_step_before hsteps hv
  exact hfree (OrderedMap.mem_of_get? (OrderedMap.get?_of_prefix hextends.types h.get?_after))

end Step.Registers

/-- **A declaration that can be converted has a first one.** When its visit ends, its target name is
registered, and this was done in the first step that declares the name and does not fail. -/
theorem exists_first_registers {visits : List (Place × Decl)} {before after : List Step} {v : Step}
    (hnew : s.types.get? target = none) (hsteps : s.steps visits = before ++ v :: after)
    (hdeclared : v.session.declaredType? v.decl = some target)
    (hok : ∀ label cause, ¬ v.session.FailsAt v.place v.decl label cause) :
    ∃ earlier w later type,
      before ++ [v] = earlier ++ w :: later ∧ w.Registers target type ∧
      (∀ u ∈ earlier, u.session.declaredType? u.decl = some target →
        ∃ label cause, u.session.FailsAt u.place u.decl label cause) ∧
      (target ∉ v.session.types → w = v) ∧ v.after.types.get? target = some type := by
  obtain ⟨first, second, -, rfl, hsession⟩ := exists_of_steps_eq hsteps
  -- the step is the last one of the visits up to it
  have hafter : v.after = s.visitAll (first ++ [(v.place, v.decl)]) := by
    rw [visitAll_append, ← hsession]
    rfl
  have hupto : s.steps (first ++ [(v.place, v.decl)]) = s.steps first ++ [v] := by
    rw [steps_append, ← hsession]
    rfl
  obtain ⟨type, hget⟩ := OrderedMap.exists_get?_of_mem (mem_types_after hdeclared hok)
  obtain ⟨w, hw, hregisters⟩ := exists_step_of_get? hnew (hafter ▸ hget)
  obtain ⟨earlier, later, hsplit⟩ := List.append_of_mem hw
  have hfirst : ∀ u ∈ earlier, u.session.declaredType? u.decl = some target →
      ∃ label cause, u.session.FailsAt u.place u.decl label cause :=
    fun u hu => hregisters.failsAt_of_before hsplit hu
  refine ⟨earlier, w, later, type, hupto.symm.trans hsplit, hregisters, hfirst, ?_, hget⟩
  intro hfree
  have hv : v ∈ earlier ++ w :: later := by
    rw [← hsplit, hupto]
    exact List.mem_append_right _ (List.mem_singleton_self v)
  rcases List.mem_append.1 hv with hv | hv
  · obtain ⟨label, cause, hfails⟩ := hfirst v hv hdeclared
    exact absurd hfails (hok label cause)
  · rcases List.mem_cons.1 hv with rfl | hv
    · rfl
    · exact absurd hv (hregisters.not_mem_after hsplit hfree)

/-! ### Whole runs -/

/-- **The first registration wins.** Where a declaration of the header itself declares a type and
nothing is reported, its target name is registered right after its visit. What is registered is the
conversion of the first declaration of the run with this target name that can be converted, and it
stays to the end of the run. It is the declaration's own conversion exactly if the name was free
before, or taken by an equal type. -/
theorem first_registration_wins (options : SessionOptions) (units : List HeaderUnit)
    (before after : List Step) (v : Step) (target : String)
    (hsteps : (start options).steps (units.flatMap HeaderUnit.visits) = before ++ v :: after)
    (hdeclared : v.session.declaredType? v.decl = some target) (hholds : v.place.holds v.decl)
    (hquiet : v.after.skipped = v.session.skipped) :
    ∃ earlier w later type,
      before ++ [v] = earlier ++ w :: later ∧ w.Registers target type ∧
      (∀ u ∈ earlier, u.session.declaredType? u.decl = some target →
        ∃ label cause, u.session.FailsAt u.place u.decl label cause) ∧
      (target ∉ v.session.types → w = v) ∧
      v.after.types.get? target = some type ∧
      ((start options).processAll units).types.get? target = some type ∧
      ∀ own, v.session.RegistersAs v.decl target own →
        (type.underlying = own.underlying ↔ target ∉ v.session.types ∨
          ∃ old, v.session.types.get? target = some old ∧ old.underlying = own.underlying) := by
  obtain ⟨earlier, w, later, type, hsplit, hregisters, hfirst, hown, hget⟩ :=
    exists_first_registers rfl hsteps hdeclared (not_failsAt_of_quiet hholds hquiet)
  refine ⟨earlier, w, later, type, hsplit, hregisters, hfirst, hown, hget, ?_, ?_⟩
  · have hv : v ∈ (start options).steps (units.flatMap HeaderUnit.visits) := by
      rw [hsteps]
      exact List.mem_append_right before List.mem_cons_self
    rw [processAll_eq_visitAll]
    exact OrderedMap.get?_of_prefix (extends_after_of_mem_steps hv).types hget
  · intro own hconverts
    by_cases hfree : target ∈ v.session.types
    · obtain ⟨old, hold⟩ := OrderedMap.exists_get?_of_mem hfree
      have hextends : v.session.Extends v.after := extends_visit v.session v.place v.decl
      have hkept := OrderedMap.get?_of_prefix hextends.types hold
      cases hkept.symm.trans hget
      simp [hfree, hold]
    · cases hown hfree
      cases hregisters.converts.functional hconverts
      simp [hfree]

/-- A struct `foo` of a header. -/
def fooStruct (file : String) (fields : List (Slot CType)) : Decl where
  kind := .record "foo" .struct fields
  location := { file := some file }

def fooAnnounced : Step := ⟨start {}, ⟨"a.h", []⟩, fooStruct "a.h" []⟩

def fooDefined : Step :=
  ⟨fooAnnounced.after, ⟨"b.h", []⟩, fooStruct "b.h" [⟨some "x", .builtin .int⟩]⟩

/-- A header announces `struct foo`, and a second one defines it. -/
def fooUnits : List HeaderUnit := [⟨"a.h", [fooAnnounced.decl]⟩, ⟨"b.h", [fooDefined.decl]⟩]

theorem first_registration_wins_foo :
    (start {}).steps (fooUnits.flatMap HeaderUnit.visits) = [fooAnnounced] ++ fooDefined :: [] ∧
    ∃ earlier w later type,
      [fooAnnounced] ++ [fooDefined] = earlier ++ w :: later ∧ w.Registers "Foo" type ∧
      fooDefined.after.types.get? "Foo" = some type ∧
      ((start {}).processAll fooUnits).types.get? "Foo" = some type := by
  obtain ⟨earlier, w, later, type, hsplit, hregisters, -, -, hafter, hend, -⟩ :=
    first_registration_wins {} fooUnits [fooAnnounced] [] fooDefined "Foo" rfl (by decide +kernel)
      (by decide +kernel) rfl
  exact ⟨rfl, earlier, w, later, type, hsplit, hregisters, hafter, hend⟩

/-- The definition is converted to another type than the one that was announced, and still it is
neither registered nor reported. -/
theorem fooDefined_not_registered :
    (start {}).steps (fooUnits.flatMap HeaderUnit.visits) = [fooAnnounced, fooDefined] ∧
    fooDefined.session.declaredType? fooDefined.decl = some "Foo" ∧
    fooDefined.place.holds fooDefined.decl ∧
    fooDefined.after.skipped = fooDefined.session.skipped ∧
    ∃ own registered, fooDefined.session.RegistersAs fooDefined.decl "Foo" own ∧
      fooDefined.after.types.get? "Foo" = some registered ∧
      registered.underlying ≠ own.underlying := by
  have hown : fooDefined.session.RegistersAs fooDefined.decl "Foo"
      ⟨.struct, .struct [⟨some "x", .scalar .int⟩]⟩ := .record rfl rfl
  have hregistered : fooDefined.after.types.get? "Foo" =
      some ⟨.struct, .struct Converter.placeholder⟩ := by
    rfl
  refine ⟨rfl, by decide +kernel, by decide +kernel, rfl, _, _, hown, hregistered, ?_⟩
  -- the placeholder of an empty struct is an array
  intro heq
  simp [Converter.placeholder] at heq

end HeaderBindings.Session
