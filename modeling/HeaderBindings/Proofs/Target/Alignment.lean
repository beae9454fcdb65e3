import HeaderBindings.Proofs.Target.Measuring
import Mathlib.Order.Bounds.Basic

/-!
# Sizes are multiples of alignments

Where measuring ends, the layout of a type is put together from the layouts of its parts
(`Registry.layout_array`, `Registry.layout_named`, `Registry.layout_struct`). Alignments are those
of scalars and pointers, 1, 2, 4 or 8, since nothing but the greatest of them is taken
(`Registry.align_mem_of_wellFounded`).

A size is a multiple of the alignment, so that in an array one element behind the other is aligned
(`Registry.elements_aligned`). The one exception are arrays that are larger than the largest size:
the size of such an array is cut off at a number that no alignment but 1 divides. The size of a
struct that is too large wraps around instead, and since all alignments divide 2^64, what is left of
it is still a multiple of its own.
-/

namespace HeaderBindings

/-! ### The alignment of a struct

Fields are placed one after the other, and the alignment is carried along: it is that of the struct
so far or that of the field, whichever is greater.
-/

namespace Layout

/-- No field, and nothing in front of it, is aligned to more than the whole. -/
theorem align_le_foldl_addField (fields : List Layout) (soFar : Layout) :
    soFar.align ≤ (fields.foldl addField soFar).align ∧
      ∀ field ∈ fields, field.align ≤ (fields.foldl addField soFar).align := by
  induction fields generalizing soFar with
  | nil => exact ⟨Nat.le_refl _, fun _ h => nomatch h⟩
  | cons first rest ih =>
    obtain ⟨hsoFar, hrest⟩ := ih (soFar.addField first)
    refine ⟨Nat.le_trans (Nat.le_max_left _ _) hsoFar, ?_⟩
    exact List.forall_mem_cons.2 ⟨Nat.le_trans (Nat.le_max_right _ _) hsoFar, hrest⟩

/-- The whole is aligned like one of the fields, or like what is in front of them. -/
theorem align_foldl_addField (fields : List Layout) (soFar : Layout) :
    (fields.foldl addField soFar).align = soFar.align ∨
      ∃ field ∈ fields, field.align = (fields.foldl addField soFar).align := by
  induction fields generalizing soFar with
  | nil => exact .inl rfl
  | cons first rest ih =>
    rw [List.foldl_cons]
    rcases ih (soFar.addField first) with h | ⟨field, hfield, h⟩
    · -- the first field does not decide unless it has the greater alignment
      rcases Nat.le_total first.align soFar.align with hle | hle
      · exact .inl (h.trans (Nat.max_eq_left hle))
      · exact .inr ⟨first, List.mem_cons_self, (h.trans (Nat.max_eq_right hle)).symm⟩
    · exact .inr ⟨field, List.mem_cons_of_mem first hfield, h⟩

/-- **The alignment of a struct is the greatest among 1 and the alignments of its fields.** -/
theorem isGreatest_align_struct (fields : List Layout) :
    IsGreatest (insert 1 {align | ∃ field ∈ fields, field.align = align})
      (struct fields).align := by
  obtain ⟨hone, hall⟩ := align_le_foldl_addField fields ⟨0, 1⟩
  refine ⟨align_foldl_addField fields ⟨0, 1⟩, ?_⟩
  rintro align (rfl | ⟨field, hfield, rfl⟩)
  · exact hone
  · exact hall field hfield

end Layout

namespace Registry

open Relation

variable {r : Registry}

/-! ### Layouts from layouts of parts

`Registry.layout` has a value for every type, which means something only where measuring ends. There
the layout of a type is computed from those of its parts, with no depth in sight.
-/

/-- Where measuring ends, each type has its layout. -/
theorem layout?_eq_some (h : WellFounded r.MeasuredFor) (type : TargetType) :
    r.layout? type = some (r.layout type) := by
  obtain ⟨layout, hlayout⟩ := exists_layout?_of_wellFounded h type
  have hsome : r.layout? type = some layout := hlayout r.size (Nat.le_refl _)
  rw [Registry.layout, hsome, Option.getD_some]

/-- The layout of an array is made of that of its elements. -/
theorem layout_array (h : WellFounded r.MeasuredFor) (elem : TargetType) (length : Nat) :
    r.layout (.array elem length) = (r.layout elem).array length := by
  have harray : r.layout? (.array elem length) = (r.layout? elem).map (·.array length) := by
    rw [Registry.layout?, TargetType.layout?, Registry.layout?]
  rw [Registry.layout, harray, layout?_eq_some h elem, Option.map_some, Option.getD_some]

/-- A registered name has the layout of its type. -/
theorem layout_named (h : WellFounded r.MeasuredFor) {name : String} {declared : DeclaredType}
    (hget : r.get? name = some declared) :
    r.layout (.named name) = r.layout declared.underlying := by
  rw [Registry.layout, Registry.layout, layout?_named_of_wellFounded h hget]

/-- A name that is not registered counts as a pointer. -/
theorem layout_named_of_get?_eq_none {name : String} (hget : r.get? name = none) :
    r.layout (.named name) = .word := by
  rw [Registry.layout, Registry.layout?, TargetType.layout?, nameLayout?_of_get?_eq_none hget,
    Option.getD_some]

theorem layouts?_eq_some (h : WellFounded r.MeasuredFor) (fields : List (Slot TargetType)) :
    TargetType.layouts? (r.nameLayout? r.size) fields =
      some (fields.map fun slot => r.layout slot.type) := by
  induction fields with
  | nil => rw [TargetType.layouts?, List.map_nil]
  | cons slot rest ih =>
    have hslot : slot.type.layout? (r.nameLayout? r.size) = some (r.layout slot.type) :=
      layout?_eq_some h slot.type
    rw [TargetType.layouts?, hslot, ih]
    rfl

/-- The layout of a struct is made of those of its fields. -/
theorem layout_struct (h : WellFounded r.MeasuredFor) (fields : List (Slot TargetType)) :
    r.layout (.struct fields) = .struct (fields.map fun slot => r.layout slot.type) := by
  rw [Registry.layout, Registry.layout?, TargetType.layout?, layouts?_eq_some h, Option.map_some,
    Option.getD_some]

/-! ### Alignments

Powers of two up to 8 divide each other in order, and they divide 2^64. The second fact is what
keeps sizes that wrap around aligned.
-/

/-- By induction on what is measured: only scalars, pointers and the like have an alignment of their
own. -/
theorem align_mem_of_wellFounded (h : WellFounded r.MeasuredFor) (type : TargetType) :
    (r.layout type).align ∈ [1, 2, 4, 8] := by
  induction type using h.induction with
  | _ type ih =>
    cases type with
    | void =>
      show 1 ∈ [1, 2, 4, 8]
      decide
    | opaquePointer | pointer | func | varArgs =>
      show wordSize ∈ [1, 2, 4, 8]
      decide
    | scalar s =>
      show s.layout.align ∈ [1, 2, 4, 8]
      cases s <;> decide
    | array elem length =>
      rw [layout_array h]
      exact ih elem .elem
    | named name =>
      cases hget : r.get? name with
      | none =>
        rw [layout_named_of_get?_eq_none hget]
        decide
      | some declared =>
        rw [layout_named h hget]
        exact ih declared.underlying (.named hget)
    | struct fields =>
      rw [layout_struct h]
      rcases (Layout.isGreatest_align_struct (fields.map fun slot => r.layout slot.type)).1 with
        hone | ⟨field, hfield, hsame⟩
      · rw [hone]
        decide
      · obtain ⟨slot, hslot, rfl⟩ := List.mem_map.1 hfield
        rw [← hsame]
        exact ih slot.type (.field hslot)

/-- No alignment is zero, so that rounding up to one is defined. -/
theorem align_pos_of_wellFounded (h : WellFounded r.MeasuredFor) (type : TargetType) :
    0 < (r.layout type).align := by
  have hpos : ∀ align ∈ [1, 2, 4, 8], 0 < align := by decide
  exact hpos _ (align_mem_of_wellFounded h type)

/-- An offset that wraps around keeps its distance to every multiple of an alignment. -/
theorem align_dvd_sizeBound (h : WellFounded r.MeasuredFor) (type : TargetType) :
    (r.layout type).align ∣ Layout.sizeBound := by
  have hdvd : ∀ align ∈ [1, 2, 4, 8], align ∣ Layout.sizeBound := by decide
  exact hdvd _ (align_mem_of_wellFounded h type)

/-! ### Sizes

Sizes of structs wrap around and sizes of arrays are cut off. A size that wraps around stays a
multiple of the alignment; one that is cut off does not, so it is excluded for all arrays that are
measured for a type (`Unsaturated`).
-/

/-- Where measuring ends, sizes fit into 64 bits. -/
theorem sizeOf_lt_sizeBound (h : WellFounded r.MeasuredFor) (type : TargetType) :
    r.sizeOf type < Layout.sizeBound := by
  induction type using h.induction with
  | _ type ih =>
    cases type with
    | void =>
      show 0 < Layout.sizeBound
      decide
    | opaquePointer | pointer | func =>
      show wordSize < Layout.sizeBound
      decide
    | varArgs =>
      show 3 * wordSize < Layout.sizeBound
      decide
    | scalar s =>
      show s.layout.size < Layout.sizeBound
      cases s <;> decide
    | array elem length =>
      rw [sizeOf, layout_array h]
      exact Nat.lt_of_le_of_lt (Nat.min_le_right _ _) (by decide)
    | named name =>
      cases hget : r.get? name with
      | none =>
        rw [sizeOf, layout_named_of_get?_eq_none hget]
        decide
      | some declared =>
        rw [sizeOf, layout_named h hget]
        exact ih declared.underlying (.named hget)
    | struct fields =>
      rw [sizeOf, layout_struct h]
      exact Layout.wrap_lt _

/-- No array that is measured for a type is larger than the largest size. -/
def Unsaturated (r : Registry) (type : TargetType) : Prop :=
  ∀ elem length, ReflTransGen r.MeasuredFor (.array elem length) type →
    r.sizeOf elem * length ≤ Layout.maxSize

/-- What holds of all arrays within a type holds of those within its parts. -/
theorem Unsaturated.part {part type : TargetType} (h : r.Unsaturated type)
    (hpart : r.MeasuredFor part type) : r.Unsaturated part :=
  fun elem length harray => h elem length (harray.tail hpart)

/-- The arrays within a type are itself, if it is one, and those within its parts. -/
theorem unsaturated_of_parts {type : TargetType}
    (hown : ∀ elem length, type = .array elem length → r.sizeOf elem * length ≤ Layout.maxSize)
    (hparts : ∀ part, r.MeasuredFor part type → r.Unsaturated part) : r.Unsaturated type := by
  intro elem length harray
  rcases ReflTransGen.cases_tail harray with rfl | ⟨part, harray, hpart⟩
  · exact hown elem length rfl
  · exact hparts part hpart elem length harray

theorem Unsaturated.scalar (s : Scalar) : r.Unsaturated (.scalar s) := by
  apply unsaturated_of_parts
  · rintro _ _ ⟨⟩
  · rintro _ ⟨⟩

theorem Unsaturated.array {elem : TargetType} (h : r.Unsaturated elem) {length : Nat}
    (hsize : r.sizeOf elem * length ≤ Layout.maxSize) : r.Unsaturated (.array elem length) := by
  apply unsaturated_of_parts
  · rintro _ _ ⟨⟩
    exact hsize
  · rintro _ ⟨⟩
    exact h

theorem Unsaturated.named {name : String} {declared : DeclaredType}
    (h : r.Unsaturated declared.underlying) (hget : r.get? name = some declared) :
    r.Unsaturated (.named name) := by
  refine unsaturated_of_parts (fun _ _ h => nomatch h) ?_
  rintro _ ⟨⟩
  next found hfound =>
    cases hget.symm.trans hfound
    exact h

/-- A struct holds the arrays of its fields and no others. -/
theorem Unsaturated.struct {fields : List (Slot TargetType)}
    (h : ∀ slot ∈ fields, r.Unsaturated slot.type) : r.Unsaturated (.struct fields) := by
  refine unsaturated_of_parts (fun _ _ h => nomatch h) ?_
  rintro _ ⟨⟩
  next slot hslot => exact h slot hslot

/-- **A size that is not cut off is a multiple of the alignment**, by induction on what is
measured. -/
theorem align_dvd_size (h : WellFounded r.MeasuredFor) {type : TargetType}
    (hfits : r.Unsaturated type) : (r.layout type).align ∣ (r.layout type).size := by
  induction type using h.induction with
  | _ type ih =>
    cases type with
    | void => exact Nat.dvd_zero 1
    | opaquePointer | pointer | func => exact Nat.dvd_refl wordSize
    | varArgs => exact Nat.dvd_mul_left wordSize 3
    | scalar s =>
      show s.layout.align ∣ s.layout.size
      cases s <;> decide
    | array elem length =>
      have hsize : min (r.sizeOf elem * length) Layout.maxSize = r.sizeOf elem * length :=
        Nat.min_eq_left (hfits elem length .refl)
      have helem : r.alignOf elem ∣ r.sizeOf elem := ih elem .elem (hfits.part .elem)
      rw [layout_array h]
      show r.alignOf elem ∣ min (r.sizeOf elem * length) Layout.maxSize
      rw [hsize]
      exact Nat.dvd_mul_right_of_dvd helem length
    | named name =>
      cases hget : r.get? name with
      | none =>
        rw [layout_named_of_get?_eq_none hget]
        decide
      | some declared =>
        rw [layout_named h hget]
        exact ih declared.underlying (.named hget) (hfits.part (.named hget))
    | struct fields =>
      -- the end of a struct is rounded up to its own alignment, and stays a multiple of it when it
      -- wraps around
      have hpos := align_pos_of_wellFounded h (.struct fields)
      have hbound := align_dvd_sizeBound h (.struct fields)
      rw [layout_struct h] at hpos hbound ⊢
      exact Layout.dvd_wrap hbound (Layout.dvd_roundUp hpos _)

/-- **One element of an array behind the other is aligned.**

Where measuring ends, the alignment of a type is 1, 2, 4 or 8. If no array within the type is cut
off at the largest size, the alignment divides the size. So if an array of the type begins at a
multiple of its alignment, every element does, with the size of the type as the distance between
them. -/
theorem elements_aligned (h : WellFounded r.MeasuredFor) {type : TargetType}
    (hfits : r.Unsaturated type) :
    r.alignOf type ∈ [1, 2, 4, 8] ∧ r.alignOf type ∣ r.sizeOf type ∧
    ∀ length start, r.alignOf (.array type length) ∣ start →
      ∀ i < length, r.alignOf type ∣ start + i * r.sizeOf type := by
  have hdvd : r.alignOf type ∣ r.sizeOf type := align_dvd_size h hfits
  refine ⟨align_mem_of_wellFounded h type, hdvd, ?_⟩
  intro length start hstart i _
  have harray : r.alignOf (.array type length) = r.alignOf type := by
    rw [alignOf, layout_array h, alignOf]
    rfl
  rw [harray] at hstart
  exact Nat.dvd_add hstart (Nat.dvd_mul_left_of_dvd hdvd i)

/-- The type `struct { v [3]c.Float }`. -/
def vec3 : TargetType := .struct [⟨some "v", .array (.scalar .float) 3⟩]

def boneTypes : Registry := (∅ : Registry).register "Vec3" ⟨.struct, vec3⟩

/-- Two registered structs in a row, between a character and a complex number. -/
def bone : TargetType :=
  .struct [⟨some "tag", .scalar .char⟩, ⟨some "ends", .array (.named "Vec3") 2⟩,
    ⟨some "weight", .scalar .complex128⟩]

theorem wellFounded_boneTypes : WellFounded boneTypes.MeasuredFor := by
  have hempty : (∅ : Registry).Layered := fun _ _ _ h => nomatch h
  have hvec : ∀ n ∈ vec3.byValue, n ∈ (∅ : Registry) := by decide
  exact (hempty.register hvec).wellFounded

theorem elements_aligned_bone :
    WellFounded boneTypes.MeasuredFor ∧ boneTypes.Unsaturated bone ∧
    boneTypes.alignOf bone = 8 ∧ boneTypes.sizeOf bone = 48 ∧
    boneTypes.alignOf bone ∣ 16 + 4 * boneTypes.sizeOf bone := by
  have hvec : boneTypes.Unsaturated vec3 := by
    apply Unsaturated.struct
    rw [List.forall_mem_singleton]
    exact (Unsaturated.scalar .float).array (by decide)
  have hget : boneTypes.get? "Vec3" = some ⟨.struct, vec3⟩ := rfl
  have hends : boneTypes.Unsaturated (.array (.named "Vec3") 2) :=
    (Unsaturated.named hvec hget).array (by decide)
  have hbone : boneTypes.Unsaturated bone := by
    apply Unsaturated.struct
    rw [List.forall_mem_cons, List.forall_mem_cons, List.forall_mem_singleton]
    exact ⟨.scalar .char, hends, .scalar .complex128⟩
  have haligned := elements_aligned wellFounded_boneTypes hbone
  exact ⟨wellFounded_boneTypes, hbone, by decide, by decide,
    haligned.2.2 5 16 (by decide) 4 (by decide)⟩

/-- An array beyond the largest size has one that is no multiple of its alignment. -/
example : ¬ (∅ : Registry).alignOf (.array (.scalar .long) (2 ^ 61)) ∣
    (∅ : Registry).sizeOf (.array (.scalar .long) (2 ^ 61)) := by
  decide

end Registry

end HeaderBindings
