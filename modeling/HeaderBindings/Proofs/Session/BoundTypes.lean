import HeaderBindings.Proofs.Session.BindingNames
import HeaderBindings.Proofs.Session.Extension

/-!
# Bound types are registered as they are bound

A binding of a type is a copy of what the registry holds under its name when the type is bound. The
registry goes on to grow, it opens records and withdraws them again, and the same type may be
declared again in another header and in another way. None of this touches an entry that is there
when a visit ends, so every copy stays the same as the original (`bound_types_registered`).
-/

namespace HeaderBindings.Session

variable {s t : Session} {p : Place} {d : Decl} {b : TypeBinding}

/-- The registry holds a type under the name of a binding, of the same kind and with the same
underlying type. -/
def Registers (s : Session) (b : TypeBinding) : Prop :=
  s.types.get? b.name = some ⟨b.kind, b.underlying⟩

theorem Registers.of_extends (h : s.Registers b) (hextends : s.Extends t) : t.Registers b :=
  OrderedMap.get?_of_prefix hextends.types h

/-! ### What a visit binds -/

theorem registers_emitType {target : String} (hb : b ∈ (s.emitType p d target).package.types) :
    b ∈ s.package.types ∨ s.Registers b := by
  rcases emitType_cases s p d target with heq | ⟨declared, hget, -, -, -, heq⟩
  · rw [heq] at hb
    exact .inl hb
  · rw [heq] at hb
    have hmem := (s.package.types_pushAll_perm p.file [.type _]).mem_iff.1 hb
    rcases List.mem_cons.1 hmem with rfl | hmem
    · exact .inr hget
    · exact .inl hmem

theorem registers_declareType {target : String} {type : DeclaredType}
    (hb : b ∈ (s.declareType p d target type).package.types) :
    b ∈ s.package.types ∨ (s.declareType p d target type).Registers b := by
  rcases registers_emitType hb with hb | hb
  · exact .inl hb
  · -- the type is bound after it is registered, and binding it does not change the registry
    rw [Registers, types_declareType]
    exact .inr hb

theorem registers_declareEnum {name : Option String}
    (hb : b ∈ (s.declareEnum p d name).package.types) :
    b ∈ s.package.types ∨ (s.declareEnum p d name).Registers b := by
  rcases declareEnum_cases s p d name with heq | ⟨target, heq⟩
  · rw [heq] at hb
    exact .inl hb
  · rw [heq] at hb ⊢
    exact registers_declareType hb

/-- **A type that a visit binds is the one that is registered when the visit ends.** -/
theorem Outcome.registers (h : Outcome s p d t) (hb : b ∈ t.package.types) :
    b ∈ s.package.types ∨ t.Registers b := by
  cases h with
  | passed => exact .inl hb
  | failed =>
    rw [skip_eq] at hb
    exact .inl hb
  | function => exact .inl ((types_bindFunction_perm s p d _ _).mem_iff.1 hb)
  | @takenRecord name | @takenTypedef name =>
    rcases registers_emitType hb with hb | hb
    · exact .inl hb
    · rw [Registers, types_emitType]
      exact .inr hb
  | record | typedef => exact registers_declareType hb
  | @enum name items values =>
    -- enumerators are no types: what is bound comes from the declaration of the enumeration
    have hmem := (types_bindEnumerators_perm (s.declareEnum p d name) p d name
      (items.zip values)).mem_iff.1 hb
    rw [Registers, types_bindEnumerators]
    exact registers_declareEnum hmem

/-! ### Visits and runs -/

def BindsAsRegistered (s : Session) : Prop := ∀ b ∈ s.package.types, s.Registers b

theorem BindsAsRegistered.visit (h : s.BindsAsRegistered) (p : Place) (d : Decl) :
    (s.visit p d).BindsAsRegistered := by
  intro b hb
  rcases (outcome_visit s p d).registers hb with hb | hb
  · -- an older copy, whose original is still there
    exact (h b hb).of_extends (extends_visit s p d)
  · exact hb

/-- **Every type is bound once, and as it is registered.**

Whatever is run, the bound types of all headers have different names, and the registry holds an
entry under each of these names, of the same kind and with the same underlying type as the
binding. -/
theorem bound_types_registered (options : SessionOptions) (units : List HeaderUnit) :
    (((start options).processAll units).package.types.map TypeBinding.name).Nodup ∧
    ∀ b ∈ ((start options).processAll units).package.types,
      ((start options).processAll units).types.get? b.name = some ⟨b.kind, b.underlying⟩ := by
  have hstart : (start options).BindsAsRegistered := fun b hb => nomatch hb
  refine ⟨(bindsTypesOnce_processAll options units).nodup, ?_⟩
  exact processAll_preserves (motive := BindsAsRegistered) (fun s p d h => h.visit p d) hstart units

end HeaderBindings.Session
