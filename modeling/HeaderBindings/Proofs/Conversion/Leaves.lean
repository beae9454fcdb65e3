import HeaderBindings.Proofs.Conversion.Fields
import HeaderBindings.Proofs.Conversion.Indirection

/-!
# What stands behind pointers and arrays

Pointers and arrays are converted from the inside out, so everything turns on the type behind all of
them, the leaf. What fails for the leaf fails in the same way for the whole type
(`Converter.type_of_leaf_error`), and a leaf that can be converted is all that a type needs whose
arrays have constant lengths (`Converter.exists_type_of_leaf`).
-/

namespace HeaderBindings

namespace CType

/-- The type behind all pointers and arrays around it. -/
def leaf : CType → CType
  | pointer pointee => leaf pointee
  | array elem _ => leaf elem
  | builtin b => builtin b
  | func f => func f
  | named ref => named ref
  | variadic => variadic

/-- The arrays around the leaf have constant lengths. -/
def IsSized : CType → Prop
  | pointer pointee => IsSized pointee
  | array elem length =>
    IsSized elem ∧ ∃ constant n, length = some constant ∧ Converter.arrayLength constant = .ok n
  | builtin _ | func _ | named _ | variadic => True

end CType

namespace Converter

variable {c : Converter}

theorem type_of_builtin? {b : Builtin} {type : TargetType} (h : Catalog.builtin? b = some type)
    (asParam : Bool) : c.type asParam (.builtin b) = .ok type := by
  rw [Converter.type, builtin, h]

/-- A reference is converted by its name alone, which is among the known typedefs or the registered
names. -/
theorem reference_of_unknown {ref : NamedRef} (hname : ref.name ≠ "")
    (hunknown : Catalog.typedef? (c.rules.trim ref.name) = none) :
    c.reference ref = if c.rules.typeName ref.name ∈ c.types then
      .ok (.named (c.rules.typeName ref.name)) else .error (.unresolvedAlias ref.name) := by
  rw [reference, if_neg hname, hunknown]

/-- A reference with a name is never taken for one without. -/
theorem reference_ne_anonymous {ref : NamedRef} (hname : ref.name ≠ "") :
    c.reference ref ≠ .error .anonymousReference := by
  intro h
  rw [reference, if_neg hname] at h
  split at h
  · cases h
  · dsimp only at h
    split at h <;> cases h

/-- **A type whose leaf cannot be converted fails for the same cause.** The induction is on the
layers around the leaf. -/
theorem type_of_leaf_error {t : CType} {cause : ConversionError}
    (h : ∀ asParam, c.type asParam t.leaf = .error cause) (asParam : Bool) :
    c.type asParam t = .error cause := by
  induction t using CType.leaf.induct generalizing asParam with
  | case1 pointee ih =>
    rw [Converter.type, ih h]
    rfl
  | case2 elem length ih =>
    rw [Converter.type, ih h]
    rfl
  | case3 | case4 | case5 | case6 => exact h asParam

theorem arrayLength_error {length : Constant} {cause : ConversionError}
    (h : arrayLength length = .error cause) : cause = .unresolvedArrayLength length := by
  unfold arrayLength at h
  split at h
  · split at h
    · cases h
      rfl
    · cases h
  · cases h
    rfl

/-- **A type fails for the cause for which its leaf does, or for the length of an array.** -/
theorem type_error_cases {t : CType} {asParam : Bool} {cause : ConversionError}
    (h : c.type asParam t = .error cause) :
    (∃ asParam, c.type asParam t.leaf = .error cause) ∨ cause = .arrayWithoutLength ∨
      ∃ length, cause = .unresolvedArrayLength length := by
  induction t using CType.leaf.induct generalizing asParam with
  | case1 pointee ih =>
    rw [type_pointer_eq_map] at h
    cases hpointee : c.type false pointee with
    | error own =>
      rw [hpointee] at h
      cases h
      exact ih hpointee
    | ok converted =>
      rw [hpointee] at h
      cases h
  | case2 elem length ih =>
    rw [Converter.type] at h
    cases helem : c.type false elem with
    | error own =>
      rw [helem] at h
      cases h
      exact ih helem
    | ok converted =>
      rw [helem] at h
      cases asParam with
      | true => cases h
      | false =>
        cases length with
        | none =>
          cases h
          exact .inr (.inl rfl)
        | some length =>
          replace h : (arrayLength length >>= fun n => Except.ok (TargetType.array converted n)) =
              .error cause := h
          cases hlength : arrayLength length with
          | ok n =>
            rw [hlength] at h
            cases h
          | error own =>
            rw [hlength] at h
            cases h
            exact .inr (.inr ⟨length, arrayLength_error hlength⟩)
  | case3 | case4 | case5 | case6 => exact .inl ⟨asParam, h⟩

/-- **A type can be converted if its leaf can**, and if its arrays have lengths. -/
theorem exists_type_of_leaf {t : CType} (hsized : t.IsSized)
    (h : ∃ type, c.type false t.leaf = .ok type) : ∃ type, c.type false t = .ok type := by
  induction t using CType.leaf.induct with
  | case1 pointee ih =>
    obtain ⟨converted, hpointee⟩ := ih hsized h
    rw [type_pointer_eq_map, hpointee]
    exact ⟨_, rfl⟩
  | case2 elem length ih =>
    obtain ⟨helem, constant, n, rfl, hlength⟩ := hsized
    obtain ⟨converted, hconverted⟩ := ih helem h
    refine ⟨.array converted n, ?_⟩
    rw [Converter.type, hconverted]
    show (arrayLength constant >>= _) = _
    rw [hlength]
    rfl
  | case3 | case4 | case5 | case6 => exact h

end Converter

end HeaderBindings
