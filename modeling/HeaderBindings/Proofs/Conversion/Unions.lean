import HeaderBindings.Proofs.Conversion.Fields
import HeaderBindings.Proofs.Target.Alignment

/-!
# Unions keep one field

A union becomes a struct of a single field, the last one among its largest fields. That field takes
up the room of all others, and the struct is no smaller than any of them (`Converter.record_union`).
All fields are converted before one is chosen, so a union fails for the first field that cannot be
converted, whatever its size would have been.

The target has no unions. The largest field has room for the bits of every other one, so a struct of
that field stands in for the union wherever it is passed or stored; to get at another field one has
to convert the struct. Of several largest fields the last is kept, which is how a search that
replaces its candidate whenever a field is at least as large comes out.

The sizes are those of `Registry.sizeOf`, so the statement is about registries in which measuring
ends. In others a conversion that compares sizes may not return at all.
-/

namespace HeaderBindings.Converter

variable {c : Converter}

/-! ### Fields and their order

Two orders play a role: that of conversion, in which the first field that fails decides, and that of
the search for the largest field, in which the last one decides among equals.
-/

/-- A field of a record is converted to a field of a struct, under its own name. -/
structure FieldTo (c : Converter) (field : Slot CType) (slot : Slot TargetType) : Prop where
  name : slot.name = field.name
  type : c.type false field.type = .ok slot.type

/-- The fields of a record are converted one by one, in order. -/
theorem forall₂_of_fields_eq_ok {body : List (Slot CType)} {slots : List (Slot TargetType)}
    (h : c.fields body = .ok slots) : List.Forall₂ c.FieldTo body slots := by
  induction body generalizing slots with
  | nil =>
    cases h
    exact .nil
  | cons field rest ih =>
    rw [fields] at h
    obtain ⟨target, hfield, h⟩ := Result.of_bind_eq_ok h
    obtain ⟨others, hothers, h⟩ := Result.of_bind_eq_ok h
    cases h
    exact .cons ⟨rfl, hfield⟩ (ih hothers)

/-- **The largest of some fields**: no field in front of it is larger, and all fields behind it are
smaller. -/
theorem exists_largest? (size : TargetType → Nat) {fields : List (Slot TargetType)}
    (h : fields ≠ []) :
    ∃ front kept back, fields = front ++ kept :: back ∧ largest? size fields = some kept ∧
      (∀ slot ∈ front, size slot.type ≤ size kept.type) ∧
      ∀ slot ∈ back, size slot.type < size kept.type := by
  induction fields with
  | nil => exact absurd rfl h
  | cons field rest ih =>
    by_cases hrest : rest = []
    · rw [hrest]
      exact ⟨[], field, [], rfl, rfl, List.forall_mem_nil _, List.forall_mem_nil _⟩
    · obtain ⟨front, best, back, rfl, hbest, hfront, hback⟩ := ih hrest
      rw [largest?, hbest]
      dsimp only
      by_cases hlt : size best.type < size field.type
      · -- all others are at most as large as the best of them
        refine ⟨[], field, front ++ best :: back, rfl, if_pos hlt, List.forall_mem_nil _, ?_⟩
        intro slot hslot
        rcases List.mem_append.1 hslot with hslot | hslot
        · exact (hfront slot hslot).trans_lt hlt
        · rcases List.mem_cons.1 hslot with rfl | hslot
          · exact hlt
          · exact (hback slot hslot).trans hlt
      · refine ⟨field :: front, best, back, rfl, if_neg hlt, ?_, hback⟩
        exact List.forall_mem_cons.2 ⟨Nat.le_of_not_lt hlt, hfront⟩

/-- Among fields that cannot all be converted, there is a first one that cannot. -/
theorem exists_first_error {body : List (Slot CType)}
    (h : ∃ field ∈ body, ∃ cause, c.type false field.type = .error cause) :
    ∃ front field back cause, body = front ++ field :: back ∧
      (∀ other ∈ front, ∃ target, c.type false other.type = .ok target) ∧
      c.type false field.type = .error cause := by
  induction body with
  | nil =>
    obtain ⟨field, hfield, -⟩ := h
    cases hfield
  | cons first rest ih =>
    cases hfirst : c.type false first.type with
    | error cause => exact ⟨[], first, rest, cause, rfl, List.forall_mem_nil _, hfirst⟩
    | ok target =>
      have hrest : ∃ field ∈ rest, ∃ cause, c.type false field.type = .error cause := by
        obtain ⟨field, hfield, cause, hcause⟩ := h
        rcases List.mem_cons.1 hfield with rfl | hfield
        · cases hfirst.symm.trans hcause
        · exact ⟨field, hfield, cause, hcause⟩
      obtain ⟨front, field, back, cause, rfl, hfront, hcause⟩ := ih hrest
      refine ⟨first :: front, field, back, cause, rfl, ?_, hcause⟩
      exact List.forall_mem_cons.2 ⟨⟨target, hfirst⟩, hfront⟩

/-! ### The struct of one field -/

/-- A struct is as large as its only field, whose size is a multiple of its alignment unless it is
cut off. -/
theorem sizeOf_struct_singleton {r : Registry} (h : WellFounded r.MeasuredFor)
    {slot : Slot TargetType} (hfits : r.Unsaturated slot.type) :
    r.sizeOf (.struct [slot]) = r.sizeOf slot.type := by
  have halign := Registry.align_pos_of_wellFounded h slot.type
  have hdvd : max 1 (r.layout slot.type).align ∣ r.sizeOf slot.type := by
    rw [Nat.max_eq_right halign]
    exact Registry.align_dvd_size h hfits
  have hlt := Registry.sizeOf_lt_sizeBound h slot.type
  have hzero : Layout.alignUp 0 (r.layout slot.type).align = 0 := by
    rw [Layout.alignUp, Layout.roundUp_of_dvd (Nat.dvd_zero _), Layout.wrap_of_lt (by decide)]
  calc r.sizeOf (.struct [slot])
      = Layout.alignUp
          (Layout.wrap (Layout.alignUp 0 (r.layout slot.type).align + r.sizeOf slot.type))
          (max 1 (r.layout slot.type).align) := by
        rw [Registry.sizeOf, Registry.layout_struct h]
        rfl
    _ = Layout.alignUp (r.sizeOf slot.type) (max 1 (r.layout slot.type).align) := by
        rw [hzero, Nat.zero_add, Layout.wrap_of_lt hlt]
    _ = r.sizeOf slot.type := by
        rw [Layout.alignUp, Layout.roundUp_of_dvd hdvd, Layout.wrap_of_lt hlt]

/-! ### Unions -/

/-- **A union is converted to its largest field.**

Where measuring ends, a union whose fields can all be converted becomes a struct of one of them. No
other field is larger, and all fields that are declared behind it are smaller. If no array in the
field is cut off at the largest size, the struct has room for each of the fields. If there are
fields that cannot be converted, the union fails for the cause for which the first of them does,
whether or not it would have been kept. -/
theorem record_union (hends : WellFounded c.types.MeasuredFor) {body : List (Slot CType)}
    (hbody : body ≠ []) :
    ((∀ field ∈ body, ∃ target, c.type false field.type = .ok target) →
      ∃ front kept back, List.Forall₂ c.FieldTo body (front ++ kept :: back) ∧
        c.record .union body = .ok [kept] ∧
        (∀ slot ∈ front ++ kept :: back, c.types.sizeOf slot.type ≤ c.types.sizeOf kept.type) ∧
        (∀ slot ∈ back, c.types.sizeOf slot.type < c.types.sizeOf kept.type) ∧
        (c.types.Unsaturated kept.type → ∀ slot ∈ front ++ kept :: back,
          c.types.sizeOf slot.type ≤ c.types.sizeOf (.struct [kept]))) ∧
    ((∃ field ∈ body, ∃ cause, c.type false field.type = .error cause) →
      ∃ front field back cause, body = front ++ field :: back ∧
        (∀ other ∈ front, ∃ target, c.type false other.type = .ok target) ∧
        c.type false field.type = .error cause ∧ c.record .union body = .error cause) := by
  constructor
  · intro hall
    obtain ⟨slots, hslots⟩ := exists_fields_of_types hall
    have hforall := forall₂_of_fields_eq_ok hslots
    have hne : slots ≠ [] := by
      rintro rfl
      cases hforall
      exact hbody rfl
    obtain ⟨front, kept, back, rfl, hkept, hfront, hback⟩ :=
      exists_largest? c.types.sizeOf hne
    have hlargest : ∀ slot ∈ front ++ kept :: back,
        c.types.sizeOf slot.type ≤ c.types.sizeOf kept.type := by
      refine List.forall_mem_append.2 ⟨hfront, List.forall_mem_cons.2 ⟨Nat.le_refl _, ?_⟩⟩
      exact fun slot hslot => Nat.le_of_lt (hback slot hslot)
    refine ⟨front, kept, back, hforall, ?_, hlargest, hback, ?_⟩
    · have hempty : ¬ body.isEmpty := by
        rw [List.isEmpty_iff]
        exact hbody
      rw [record, if_neg hempty, hslots]
      show Except.ok (largest? c.types.sizeOf (front ++ kept :: back)).toList = Except.ok [kept]
      rw [hkept]
      rfl
    · intro hfits slot hslot
      rw [sizeOf_struct_singleton hends hfits]
      exact hlargest slot hslot
  · intro hfails
    obtain ⟨front, field, back, cause, rfl, hfront, hcause⟩ := exists_first_error hfails
    exact ⟨front, field, back, cause, rfl, hfront, hcause, record_of_error hfront hcause⟩

/-- A conversion without rules that knows one struct of 12 bytes. -/
def withVec3 : Converter := ⟨.ofLists [] [], Registry.boneTypes⟩

/-- A union of an `int`, the struct, three floats and a character. -/
def shape : List (Slot CType) :=
  [⟨some "id", .builtin .int⟩, ⟨some "vec", .named { name := "Vec3" }⟩,
    ⟨some "parts", .array (.builtin ⟨.float, {}⟩) (some (.literal "3"))⟩,
    ⟨some "tag", .builtin .char⟩]

/-- A field of a type that is not known, although a pointer to it would not be the largest field. -/
def goneField : Slot CType := ⟨some "next", .pointer (.named { name := "Gone" })⟩

/-- Of the struct and the floats, which have the same size, the floats are kept. -/
theorem record_union_shape :
    WellFounded withVec3.types.MeasuredFor ∧ shape ≠ [] ∧
    (∃ front kept back, List.Forall₂ withVec3.FieldTo shape (front ++ kept :: back) ∧
      withVec3.record .union shape = .ok [kept] ∧ kept.name = some "parts" ∧
      ∀ slot ∈ front ++ kept :: back, withVec3.types.sizeOf slot.type ≤ 12) ∧
    ∃ field ∈ shape ++ [goneField], ∃ cause, withVec3.type false field.type = .error cause ∧
      withVec3.record .union (shape ++ [goneField]) = .error cause := by
  have hends : WellFounded withVec3.types.MeasuredFor := Registry.wellFounded_boneTypes
  have hall : ∀ field ∈ shape, ∃ target, withVec3.type false field.type = .ok target := by
    simp only [shape, List.forall_mem_cons]
    exact ⟨⟨_, rfl⟩, ⟨_, rfl⟩, ⟨_, rfl⟩, ⟨_, rfl⟩, List.forall_mem_nil _⟩
  have hne : shape ≠ [] := List.cons_ne_nil _ _
  refine ⟨hends, hne, ?_, ?_⟩
  · obtain ⟨front, kept, back, hforall, hrecord, hlargest, -, -⟩ := (record_union hends hne).1 hall
    have hparts : withVec3.record .union shape =
        .ok [⟨some "parts", .array (.scalar .float) 3⟩] := rfl
    cases hrecord.symm.trans hparts
    exact ⟨front, _, back, hforall, hrecord, rfl, hlargest⟩
  · have hgone : withVec3.type false goneField.type = .error (.unresolvedAlias "Gone") := rfl
    obtain ⟨front, field, back, cause, hsplit, -, hcause, hrecord⟩ :=
      (record_union hends (List.concat_ne_nil goneField shape)).2
        ⟨goneField, List.mem_concat_self, _, hgone⟩
    refine ⟨field, ?_, cause, hcause, hrecord⟩
    rw [hsplit]
    exact List.mem_append_right front List.mem_cons_self

end HeaderBindings.Converter
