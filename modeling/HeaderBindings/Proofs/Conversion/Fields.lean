import HeaderBindings.Proofs.Cursor.StructHeader
import Mathlib.Data.List.Forall2

/-!
# Converting the fields of a struct

The fields of a struct are converted one by one, in order. A field of a builtin type and a pointer
to one always have a target type; a pointer to a struct has one just when the name of the struct is
registered (`Converter.Knows`).

The first part is about headers of structs, in which fields are of these three kinds. Here a field
is given by the compiler's description of its type, behind whatever sugar, and the kind tells what
it is converted to: `type_of_knows` for the fields that can be converted, and `type_of_not_knows`
for the others.

The second part is about lists of fields, of any types. They are converted together exactly if each
of them can be converted, and if not, the first one that cannot is the cause
(`exists_fields_of_types`, `fields_of_error`). A record adds to this the placeholder of an empty
struct and the choice of an alternative, neither of which can fail, so the same holds of records
(`exists_record_iff`, `record_of_error`).
-/

namespace HeaderBindings

/-- A field of a struct in the bindings: under its own name, with its target type. -/
structure CursorTree.FieldAs (t : CursorTree) (rules : PrefixRules) (field : Cursor)
    (slot : Slot TargetType) : Prop where
  name : slot.name = some field.spelling
  type : (t.fieldKind? field.type).map (·.target rules) = some slot.type

namespace Converter

/-- A field can be converted: if it points to a struct, the name of the struct is registered. -/
def Knows (c : Converter) : FieldKind → Prop
  | .struct r => c.rules.typeName r.spelling ∈ c.types
  | .value _ | .pointer _ => True

/-- A field that points to a struct refers to it by a name that is not known otherwise. -/
def Names (c : Converter) : FieldKind → Prop
  | .struct r => r.isAnonymous = false ∧ r.spelling ≠ "" ∧
      Catalog.typedef? (c.rules.trim r.spelling) = none
  | .value _ | .pointer _ => True

variable {c : Converter} {t : CursorTree} {type : CursorType}

theorem type_of_builtinTarget? {target : TargetType}
    (h : CursorTree.builtinTarget? type = some target) :
    c.type false (t.type type) = .ok target := by
  unfold CursorTree.builtinTarget? at h
  split at h
  · rw [CursorTree.type, Converter.type, builtin, h]
  · rw [CursorTree.type, Converter.type, builtin, h]
  · cases h

/-- A reference to a struct resolves just when the name of the struct is registered. -/
theorem type_struct {decl : Option String} (hnames : c.Names (.struct (t.decl decl))) :
    c.type false (t.type (.record decl)) =
      if c.rules.typeName (t.decl decl).spelling ∈ c.types then
        .ok (.named (c.rules.typeName (t.decl decl).spelling))
      else .error (.unresolvedAlias (t.decl decl).spelling) := by
  obtain ⟨hanonymous, hname, htypedef⟩ := hnames
  rw [CursorTree.decl] at hanonymous hname htypedef ⊢
  rw [CursorTree.type, CursorTree.taggedRef, Converter.type, reference]
  dsimp only
  rw [hanonymous, if_neg Bool.false_ne_true, if_neg hname, htypedef]

theorem type_pointer {pointee : CursorType} {target : TargetType}
    (h : c.type false (t.type pointee) = .ok target) :
    c.type false (t.type (.pointer pointee)) = .ok (pointerTo target) := by
  rw [CursorTree.type, Converter.type, h]
  rfl

theorem type_pointer_error {pointee : CursorType} {cause : ConversionError}
    (h : c.type false (t.type pointee) = .error cause) :
    c.type false (t.type (.pointer pointee)) = .error cause := by
  rw [CursorTree.type, Converter.type, h]
  rfl

theorem fieldKind?_cases {kind : FieldKind} (h : t.fieldKind? type = some kind) :
    (∃ target, CursorTree.builtinTarget? type.core = some target ∧ kind = .value target) ∨
    (∃ pointee target, type.core = .pointer pointee ∧
      CursorTree.builtinTarget? pointee.core = some target ∧ kind = .pointer target) ∨
    (∃ pointee decl, type.core = .pointer pointee ∧ pointee.core = .record decl ∧
      kind = .struct (t.decl decl)) := by
  unfold CursorTree.fieldKind? at h
  split at h
  · next pointee hcore =>
    split at h
    · next decl hdecl => exact .inr (.inr ⟨pointee, decl, hcore, hdecl, (Option.some.inj h).symm⟩)
    · obtain ⟨target, htarget, hkind⟩ := Option.map_eq_some_iff.1 h
      exact .inr (.inl ⟨pointee, target, hcore, htarget, hkind.symm⟩)
  · obtain ⟨target, htarget, hkind⟩ := Option.map_eq_some_iff.1 h
    exact .inl ⟨target, htarget, hkind.symm⟩

/-- **A field whose struct is registered is converted to its target type.** -/
theorem type_of_knows {kind : FieldKind} (hkind : t.fieldKind? type = some kind)
    (hnames : c.Names kind) (hknows : c.Knows kind) :
    c.type false (t.type type) = .ok (kind.target c.rules) := by
  rw [← CursorTree.type_core]
  rcases fieldKind?_cases hkind with ⟨target, htarget, rfl⟩ |
    ⟨pointee, target, hcore, htarget, rfl⟩ | ⟨pointee, decl, hcore, hdecl, rfl⟩
  · exact type_of_builtinTarget? htarget
  · rw [hcore]
    apply type_pointer
    rw [← CursorTree.type_core]
    exact type_of_builtinTarget? htarget
  · have hmem : c.rules.typeName (t.decl decl).spelling ∈ c.types := hknows
    have hregistered := type_struct hnames
    rw [if_pos hmem, ← hdecl, CursorTree.type_core] at hregistered
    rw [hcore]
    exact type_pointer hregistered

/-- **A field whose struct is not registered is not converted.** -/
theorem type_of_not_knows {kind : FieldKind} (hkind : t.fieldKind? type = some kind)
    (hnames : c.Names kind) (hknows : ¬ c.Knows kind) :
    ∃ cause, c.type false (t.type type) = .error cause := by
  rw [← CursorTree.type_core]
  rcases fieldKind?_cases hkind with ⟨target, htarget, rfl⟩ |
    ⟨pointee, target, hcore, htarget, rfl⟩ | ⟨pointee, decl, hcore, hdecl, rfl⟩
  · exact absurd trivial hknows
  · exact absurd trivial hknows
  · have hmem : c.rules.typeName (t.decl decl).spelling ∉ c.types := hknows
    have hfails := type_struct hnames
    rw [if_neg hmem, ← hdecl, CursorTree.type_core] at hfails
    rw [hcore]
    exact ⟨_, type_pointer_error hfails⟩

/-! ### All fields of a struct

The conversion of a list stops at the first failure, so that the proofs are inductions on the list
in which the front is converted and the first failure, if there is one, is met in front of the rest.
-/

/-- Fields can only be converted if every one of them can. -/
theorem exists_type_of_fields_eq_ok {body : List (Slot CType)} {slots : List (Slot TargetType)}
    (h : c.fields body = .ok slots) :
    ∀ field ∈ body, ∃ target, c.type false field.type = .ok target := by
  induction body generalizing slots with
  | nil => exact fun field hfield => nomatch hfield
  | cons first rest ih =>
    rw [fields] at h
    obtain ⟨target, hfirst, h⟩ := Result.of_bind_eq_ok h
    obtain ⟨others, hothers, -⟩ := Result.of_bind_eq_ok h
    intro field hfield
    rcases List.mem_cons.1 hfield with rfl | hfield
    · exact ⟨target, hfirst⟩
    · exact ih hothers field hfield

/-- Fields each of which can be converted can be converted together. -/
theorem exists_fields_of_types {body : List (Slot CType)}
    (h : ∀ field ∈ body, ∃ target, c.type false field.type = .ok target) :
    ∃ slots, c.fields body = .ok slots := by
  induction body with
  | nil => exact ⟨[], rfl⟩
  | cons first rest ih =>
    obtain ⟨target, hfirst⟩ := h first List.mem_cons_self
    obtain ⟨slots, hslots⟩ := ih fun field hfield => h field (List.mem_cons_of_mem first hfield)
    refine ⟨⟨first.name, target⟩ :: slots, ?_⟩
    rw [fields, hfirst, hslots]
    rfl

/-- The first field that cannot be converted is the cause for which all of them fail. -/
theorem fields_of_error {before after : List (Slot CType)} {field : Slot CType}
    {cause : ConversionError}
    (hbefore : ∀ other ∈ before, ∃ target, c.type false other.type = .ok target)
    (h : c.type false field.type = .error cause) :
    c.fields (before ++ field :: after) = .error cause := by
  induction before with
  | nil =>
    show c.fields (field :: after) = _
    rw [fields, h]
    rfl
  | cons first rest ih =>
    obtain ⟨target, hfirst⟩ := hbefore first List.mem_cons_self
    have hrest := ih fun other hother => hbefore other (List.mem_cons_of_mem first hother)
    show c.fields (first :: (rest ++ field :: after)) = _
    rw [fields, hfirst]
    show (c.fields (rest ++ field :: after) >>= _) = _
    rw [hrest]
    rfl

/-- A record can be converted exactly if all of its fields can. -/
theorem exists_record_iff {tag : Tag} {body : List (Slot CType)} :
    (∃ converted, c.record tag body = .ok converted) ↔
      ∀ field ∈ body, ∃ target, c.type false field.type = .ok target := by
  rw [record]
  constructor
  · rintro ⟨converted, h⟩
    split at h
    · next hempty =>
      rw [List.isEmpty_iff.1 hempty]
      exact fun field hfield => nomatch hfield
    · obtain ⟨slots, hslots, -⟩ := Result.of_bind_eq_ok h
      exact exists_type_of_fields_eq_ok hslots
  · intro h
    obtain ⟨slots, hslots⟩ := exists_fields_of_types h
    split
    · exact ⟨placeholder, rfl⟩
    · rw [hslots]
      cases tag
      all_goals exact ⟨_, rfl⟩

/-- The first field that cannot be converted is the cause for which a record fails. -/
theorem record_of_error {tag : Tag} {before after : List (Slot CType)} {field : Slot CType}
    {cause : ConversionError}
    (hbefore : ∀ other ∈ before, ∃ target, c.type false other.type = .ok target)
    (h : c.type false field.type = .error cause) :
    c.record tag (before ++ field :: after) = .error cause := by
  have hne : ¬ (before ++ field :: after).isEmpty := by simp
  rw [record, if_neg hne, fields_of_error hbefore h]
  rfl

/-- **Fields whose structs are registered are converted one by one, in order.** -/
theorem fields_of_knows {fs : List Cursor}
    (h : ∀ f ∈ fs, ∃ kind, t.fieldKind? f.type = some kind ∧ c.Names kind ∧ c.Knows kind) :
    ∃ slots, c.fields (fs.map fun f => ⟨some f.spelling, t.type f.type⟩) = .ok slots ∧
      List.Forall₂ (t.FieldAs c.rules) fs slots := by
  induction fs with
  | nil => exact ⟨[], rfl, .nil⟩
  | cons f rest ih =>
    obtain ⟨kind, hkind, hnames, hknows⟩ := h f List.mem_cons_self
    obtain ⟨slots, hslots, hforall⟩ := ih fun g hg => h g (List.mem_cons_of_mem f hg)
    refine ⟨⟨some f.spelling, kind.target c.rules⟩ :: slots, ?_, .cons ⟨rfl, ?_⟩ hforall⟩
    · rw [List.map_cons, fields, type_of_knows hkind hnames hknows, hslots]
      rfl
    · rw [hkind]
      rfl

/-- **One field whose struct is not registered is enough for the conversion to fail.** -/
theorem fields_of_not_knows {fs : List Cursor} {f : Cursor} (hf : f ∈ fs) {kind : FieldKind}
    (hkind : t.fieldKind? f.type = some kind) (hnames : c.Names kind) (hknows : ¬ c.Knows kind) :
    ∃ cause, c.fields (fs.map fun f => ⟨some f.spelling, t.type f.type⟩) = .error cause := by
  cases hfields : c.fields (fs.map fun f => ⟨some f.spelling, t.type f.type⟩) with
  | error cause => exact ⟨cause, rfl⟩
  | ok slots =>
    obtain ⟨target, htarget⟩ :=
      exists_type_of_fields_eq_ok hfields ⟨some f.spelling, t.type f.type⟩
        (List.mem_map.2 ⟨f, hf, rfl⟩)
    obtain ⟨cause, hcause⟩ := type_of_not_knows hkind hnames hknows
    rw [hcause] at htarget
    cases htarget

end Converter

end HeaderBindings
