import HeaderBindings.Conversion
import Mathlib.Logic.Function.Iterate

/-!
# Pointers, layer by layer

A pointer is converted by what its pointee was converted to, so each layer sees the result of the
layer below. Layers around most types are kept as they are, and the innermost one around `void`
becomes the opaque pointer. A function type stays the same behind any number of pointers: the type
of a pointer to it is the function type again, which the next layer takes for a function of its own
(`type_pointers_iff`).

An array that is a parameter becomes a pointer without a look at its element. So it agrees with the
pointer to that element as long as the element is not one of the two special pointees
(`type_array_eq_type_pointer_iff`).
-/

namespace HeaderBindings

/-- The type of `n` pointers to a type. The innermost pointer to `void` is opaque, and the innermost
one to a function is part of the function value. -/
def TargetType.behindPointers (n : Nat) : TargetType → TargetType
  | .void => pointer^[n - 1] .opaquePointer
  | .func signature => pointer^[n - 1] (.func signature)
  | type => pointer^[n] type

namespace Converter

variable {c : Converter}

theorem type_pointer_eq_map (c : Converter) (asParam : Bool) (pointee : CType) :
    c.type asParam (.pointer pointee) = (c.type false pointee).map pointerTo := by
  rw [Converter.type]
  cases c.type false pointee <;> rfl

/-- An array that is a parameter is a pointer to its element, whatever its length is. -/
theorem type_array_eq_map (c : Converter) (elem : CType) (length : Option Constant) :
    c.type true (.array elem length) = (c.type false elem).map .pointer := by
  rw [Converter.type]
  cases c.type false elem <;> rfl

/-! ### Layers of pointers -/

/-- Layers of pointers are converted one after the other, from the inside out. -/
theorem type_iterate_pointer (c : Converter) (asParam : Bool) (t : CType) (n : Nat) :
    c.type asParam (CType.pointer^[n + 1] t) = (c.type false t).map pointerTo^[n + 1] := by
  induction n generalizing asParam with
  | zero => exact type_pointer_eq_map c asParam t
  | succ n ih =>
    rw [Function.iterate_succ_apply', type_pointer_eq_map, ih]
    cases c.type false t with
    | error cause => rfl
    | ok type =>
      show Except.ok (pointerTo (pointerTo^[n + 1] type)) = Except.ok (pointerTo^[n + 2] type)
      rw [Function.iterate_succ_apply' pointerTo (n + 1)]

theorem pointerTo_of_ne {type : TargetType} (hvoid : type ≠ .void)
    (hfunc : ∀ signature, type ≠ .func signature) : pointerTo type = .pointer type := by
  unfold pointerTo
  split
  · exact absurd rfl hvoid
  · next signature => exact absurd rfl (hfunc signature)
  · rfl

/-- Layers around a type that is neither `void` nor a function are kept. -/
theorem iterate_pointerTo_of_ne {type : TargetType} (hvoid : type ≠ .void)
    (hfunc : ∀ signature, type ≠ .func signature) (n : Nat) :
    pointerTo^[n] type = TargetType.pointer^[n] type := by
  induction n generalizing type with
  | zero => rfl
  | succ n ih =>
    rw [Function.iterate_succ_apply, Function.iterate_succ_apply, pointerTo_of_ne hvoid hfunc]
    -- a pointer is neither of the two, so the layers further out are kept as well
    exact ih (by simp) (by simp)

theorem iterate_pointerTo_void (n : Nat) :
    pointerTo^[n + 1] .void = TargetType.pointer^[n] .opaquePointer := by
  show pointerTo^[n] .opaquePointer = _
  exact iterate_pointerTo_of_ne (by simp) (by simp) n

/-- No pointer to a function type shows. -/
theorem iterate_pointerTo_func (n : Nat) (signature : Signature TargetType) :
    pointerTo^[n] (.func signature) = .func signature :=
  Function.iterate_fixed rfl n

/-- **Layers of pointers are kept around all types but functions.** Behind one pointer a function
type is itself, and behind any more of them it still is. -/
theorem type_pointers_iff {t : CType} {type : TargetType} (h : c.type false t = .ok type) {n : Nat}
    (hn : 0 < n) (asParam : Bool) :
    (c.type asParam (CType.pointer^[n] t) = .ok (type.behindPointers n) ↔
      n = 1 ∨ ∀ signature, type ≠ .func signature) ∧
    ∀ signature, type = .func signature →
      c.type asParam (CType.pointer^[n] t) = .ok (.func signature) := by
  obtain ⟨n, rfl⟩ := Nat.exists_eq_succ_of_ne_zero (Nat.ne_of_gt hn)
  have hlayers : c.type asParam (CType.pointer^[n + 1] t) = .ok (pointerTo^[n + 1] type) := by
    rw [type_iterate_pointer, h]
    rfl
  rw [hlayers]
  constructor
  · cases type with
    | func signature =>
      show Except.ok (pointerTo^[n + 1] (.func signature)) =
        Except.ok (TargetType.pointer^[n] (.func signature)) ↔ _
      rw [iterate_pointerTo_func]
      cases n with
      | zero => simp
      | succ n =>
        -- the outermost layer should be a pointer, and is none
        rw [Function.iterate_succ_apply']
        simp
    | void =>
      have hvoid : pointerTo^[n + 1] .void = TargetType.void.behindPointers (n + 1) :=
        iterate_pointerTo_void n
      simp [hvoid]
    | scalar | opaquePointer | pointer | array | named | struct | varArgs =>
      rw [iterate_pointerTo_of_ne (by simp) (by simp)]
      simp [TargetType.behindPointers]
  · rintro signature rfl
    rw [iterate_pointerTo_func]

/-- The type `int (int)`. -/
def handler : CType := .func ⟨[⟨none, .builtin .int⟩], false, .builtin .int⟩

/-- A conversion without rules and declared types. -/
def plain : Converter := ⟨.ofLists [] [], ∅⟩

theorem type_pointers_iff_opaque :
    0 < 3 ∧ plain.type false (.builtin .void) = .ok .void ∧
    plain.type true (.pointer (.pointer (.pointer (.builtin .void)))) =
      .ok (.pointer (.pointer .opaquePointer)) ∧
    plain.type true (.pointer (.pointer (.pointer handler))) = plain.type false handler := by
  have hvoid : plain.type false (.builtin .void) = .ok .void := rfl
  have hhandler : plain.type false handler =
      .ok (.func ⟨[⟨none, .scalar .int⟩], false, [.scalar .int]⟩) := rfl
  have hopaque := (type_pointers_iff hvoid (n := 3) (by decide) true).1.2 (.inr (by simp))
  have hlost := (type_pointers_iff hhandler (n := 3) (by decide) true).2 _ rfl
  exact ⟨by decide, hvoid, hopaque, hlost.trans hhandler.symm⟩

/-- A place for a handler is converted like the handler itself: the pointer to it is lost. -/
theorem handler_place_loses_pointer :
    ∃ signature,
      plain.type false handler = .ok (.func signature) ∧
      plain.type false (.pointer handler) = .ok (.func signature) ∧
      plain.type false (.pointer (.pointer handler)) = .ok (.func signature) ∧
      (TargetType.func signature).behindPointers 2 = .pointer (.func signature) ∧
      plain.type false (.pointer (.pointer handler)) ≠ .ok (.pointer (.func signature)) :=
  ⟨⟨[⟨none, .scalar .int⟩], false, [.scalar .int]⟩, rfl, rfl, rfl, rfl, nofun⟩

/-! ### Arrays that are parameters -/

/-- Whether a type is that of a parameter matters for arrays only. -/
theorem type_of_not_array {t : CType} (h : ∀ elem length, t ≠ .array elem length)
    (asParam : Bool) : c.type asParam t = c.type false t := by
  cases t with
  | builtin b => rw [Converter.type, Converter.type]
  | pointer pointee => rw [type_pointer_eq_map, type_pointer_eq_map]
  | array elem length => exact absurd rfl (h elem length)
  | func f => rw [Converter.type, Converter.type]
  | named ref => rw [Converter.type, Converter.type]
  | variadic => rw [Converter.type, Converter.type]

/-- **An array that is a parameter agrees with the pointer to its element**, be it in the type or in
the failure, exactly if the element is not converted to `void` or a function; and only arrays are
converted in another way as parameters. -/
theorem type_array_eq_type_pointer_iff (c : Converter) :
    (∀ elem length,
      c.type true (.array elem length) = c.type true (.pointer elem) ↔
        ∀ type, c.type false elem = .ok type →
          type ≠ .void ∧ ∀ signature, type ≠ .func signature) ∧
    ∀ t, (∀ elem length, t ≠ .array elem length) →
      ∀ asParam, c.type asParam t = c.type false t := by
  refine ⟨?_, fun t h => type_of_not_array h⟩
  intro elem length
  rw [type_array_eq_map, type_pointer_eq_map]
  cases c.type false elem with
  | error cause => simp [Except.map]
  | ok type =>
    show Except.ok (TargetType.pointer type) = Except.ok (pointerTo type) ↔ _
    constructor
    · rintro h _ ⟨⟩
      -- for both of the special types, the pointer is another one
      constructor
      · rintro rfl
        cases h
      · rintro signature rfl
        cases h
    · intro h
      obtain ⟨hvoid, hfunc⟩ := h type rfl
      rw [pointerTo_of_ne hvoid hfunc]

/-- The type `int [4]`. -/
def row : CType := .array (.builtin .int) (some (.literal "4"))

/-- The type `int [n][4]`, whose outer length is not known. -/
def grid : CType := .array row (some (.name "n"))

theorem type_array_eq_type_pointer_iff_grid :
    plain.type true grid = .ok (.pointer (.array (.scalar .int) 4)) ∧
    plain.type true (.pointer row) = .ok (.pointer (.array (.scalar .int) 4)) ∧
    plain.type false grid = .error (.unresolvedArrayLength (.name "n")) ∧
    plain.type true (.pointer grid) = plain.type false (.pointer grid) := by
  have hrow : plain.type false row = .ok (.array (.scalar .int) 4) := rfl
  have hpointer : plain.type true (.pointer row) = .ok (.pointer (.array (.scalar .int) 4)) := by
    rw [type_pointer_eq_map, hrow]
    rfl
  obtain ⟨harray, hother⟩ := type_array_eq_type_pointer_iff plain
  have hgrid : plain.type true grid = plain.type true (.pointer row) := by
    refine (harray row _).2 ?_
    intro type hok
    cases hrow.symm.trans hok
    simp
  exact ⟨hgrid.trans hpointer, hpointer, rfl, hother _ (by simp) true⟩

/-- Four handlers as a parameter are a pointer to the first of them, but the parameter that is
written as that pointer is converted to a handler. -/
theorem handlers_ne_pointer :
    ∃ signature,
      plain.type true (.array (.pointer handler) (some (.literal "4"))) =
        .ok (.pointer (.func signature)) ∧
      plain.type true (.pointer (.pointer handler)) = .ok (.func signature) ∧
      plain.type true (.array (.pointer handler) (some (.literal "4"))) ≠
        plain.type true (.pointer (.pointer handler)) :=
  ⟨⟨[⟨none, .scalar .int⟩], false, [.scalar .int]⟩, rfl, rfl, nofun⟩

end Converter

end HeaderBindings
