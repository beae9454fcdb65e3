import HeaderBindings.Conversion

/-!
# What conversions write

A converted type is put together from names, signatures and other types. All names that occur in it,
at any depth, were found in the registry. All signatures that occur in it have at most one result,
which is not `void`, and an open end exactly if they are variadic: as the last parameter and nowhere
else. Both follow from one induction on what is converted (`writesAll_of_type`).

## One induction for both

The parts of a type are the types that occur in it (`TargetType.Occurs`), itself among them. A
property of all parts is preserved by the constructors of types: the parts of a pointer are the
pointer itself and the parts of what it points to, and likewise for arrays, structs and signatures.
So it is enough to look at what a conversion writes in one step (`Writes`), which is a name only if
it is registered, and a signature only if it is well formed.

The first of these is seen where references are resolved. The second one rests on a fact about open
ends: nothing but a `...` is converted to one (`varArgs_ne_of_type`), and a `...` among the
parameters is either the last of them, where it is taken off and remembered, or it stops the
conversion. So the parameters that are left have no open ends (`varArgs_ne_of_params`), and one is
added behind them exactly if the signature is variadic (`wellFormed_signatureOf`).

The fields of a record are converted one by one, and the record keeps all of them, one of them or a
placeholder (`exists_type_of_mem_record`). Hence what is said of types holds of converted records,
too (`writesAll_of_record`).
-/

namespace HeaderBindings

/-- A type occurs in another one, at any depth. -/
inductive TargetType.Occurs (part : TargetType) : TargetType → Prop where
  | self : Occurs part part
  | pointer {pointee} : Occurs part pointee → Occurs part (.pointer pointee)
  | array {elem length} : Occurs part elem → Occurs part (.array elem length)
  | param {signature} {slot : Slot TargetType} :
      slot ∈ signature.params → Occurs part slot.type → Occurs part (.func signature)
  | result {signature type} :
      type ∈ signature.results → Occurs part type → Occurs part (.func signature)
  | field {fields} {slot : Slot TargetType} :
      slot ∈ fields → Occurs part slot.type → Occurs part (.struct fields)

/-- A signature has at most one result, which is not `void`, and an open end exactly if it is
variadic, as its last parameter. -/
structure Signature.WellFormed (s : Signature TargetType) : Prop where
  results : s.results = [] ∨ ∃ result, s.results = [result] ∧ result ≠ .void
  openEnd : s.variadic = true → ∃ fixed,
    s.params = fixed ++ [⟨some Converter.openEndName, .varArgs⟩] ∧
    ∀ slot ∈ fixed, slot.type ≠ .varArgs
  closed : s.variadic = false → ∀ slot ∈ s.params, slot.type ≠ .varArgs

namespace Converter

variable {c : Converter}

/-! ### Open ends

An open end is a type of its own, which stands for the further arguments of a call. It should be
found at the end of parameter lists only.
-/

theorem varArgs_ne_of_builtin {b : Builtin} {type : TargetType} (h : builtin b = .ok type) :
    type ≠ .varArgs := by
  rw [builtin] at h
  split at h
  · next found hfound =>
    cases h
    rcases Catalog.eq_void_or_scalar_of_builtin? hfound with rfl | ⟨s, rfl⟩ <;> simp
  · cases h

theorem varArgs_ne_of_reference {ref : NamedRef} {type : TargetType}
    (h : c.reference ref = .ok type) : type ≠ .varArgs := by
  rw [reference] at h
  split at h
  · cases h
  · split at h
    · cases h
      simp [Catalog.KnownTypedef.type]
    · dsimp only at h
      split at h
      · cases h
        simp
      · cases h

/-- Nothing but a `...` is converted to an open end. -/
theorem varArgs_ne_of_type {t : CType} {type : TargetType} {asParam : Bool}
    (h : c.type asParam t = .ok type) (ht : t ≠ .variadic) : type ≠ .varArgs := by
  cases t with
  | builtin b =>
    rw [Converter.type] at h
    exact varArgs_ne_of_builtin h
  | pointer pointee =>
    rw [Converter.type] at h
    obtain ⟨converted, -, h⟩ := Result.of_bind_eq_ok h
    cases h
    unfold pointerTo
    split <;> simp
  | array elem length =>
    rw [Converter.type] at h
    obtain ⟨converted, -, h⟩ := Result.of_bind_eq_ok h
    split at h
    · cases h
      simp
    · split at h
      · cases h
      · obtain ⟨size, -, h⟩ := Result.of_bind_eq_ok h
        cases h
        simp
  | func f =>
    obtain ⟨ps, isVariadic, ret⟩ := f
    rw [Converter.type] at h
    obtain ⟨⟨converted, isOpen⟩, -, h⟩ := Result.of_bind_eq_ok h
    obtain ⟨convertedRet, -, h⟩ := Result.of_bind_eq_ok h
    cases h
    simp
  | named ref =>
    rw [Converter.type] at h
    exact varArgs_ne_of_reference h
  | variadic => exact absurd rfl ht

theorem params_cons_of_ne {name : Option String} {t : CType} {rest : List (Slot CType)}
    (h : t ≠ .variadic) :
    c.params (⟨name, t⟩ :: rest) = do
      let first ← c.type true t
      let (others, isOpen) ← c.params rest
      return (⟨name, first⟩ :: others, isOpen) := by
  rw [params]
  · exact fun ht _ => h ht
  · exact fun _ _ ht _ => h ht

/-- A `...` in front of other parameters stops the conversion. -/
theorem params_ne_ok_of_misplaced {name : Option String} {next : Slot CType}
    {rest : List (Slot CType)} {result : List (Slot TargetType) × Bool} :
    c.params (⟨name, .variadic⟩ :: next :: rest) ≠ .ok result := by
  rw [params]
  exact fun h => nomatch h

/-- No converted parameter is an open end, which is added behind all of them. -/
theorem varArgs_ne_of_params {ps : List (Slot CType)} {converted : List (Slot TargetType)}
    {isOpen : Bool} (h : c.params ps = .ok (converted, isOpen)) :
    ∀ slot ∈ converted, slot.type ≠ .varArgs := by
  induction ps generalizing converted isOpen with
  | nil =>
    rw [params] at h
    cases h
    exact fun slot hslot => nomatch hslot
  | cons first rest ih =>
    obtain ⟨name, t⟩ := first
    by_cases ht : t = .variadic
    · subst ht
      cases rest with
      | nil =>
        rw [params] at h
        cases h
        exact fun slot hslot => nomatch hslot
      | cons next rest => exact absurd h params_ne_ok_of_misplaced
    · rw [params_cons_of_ne ht] at h
      obtain ⟨own, hown, h⟩ := Result.of_bind_eq_ok h
      obtain ⟨⟨others, isOpen⟩, hothers, h⟩ := Result.of_bind_eq_ok h
      cases h
      intro slot hslot
      rcases List.mem_cons.1 hslot with rfl | hslot
      · exact varArgs_ne_of_type hown ht
      · exact ih hothers slot hslot

/-- **A signature of converted parts is well formed.** -/
theorem wellFormed_signatureOf {params : List (Slot TargetType)}
    (h : ∀ slot ∈ params, slot.type ≠ .varArgs) (isVariadic : Bool) (result : TargetType) :
    (signatureOf params isVariadic result).WellFormed where
  results := by
    unfold signatureOf
    dsimp only
    split
    · exact .inl rfl
    · next hvoid => exact .inr ⟨result, rfl, hvoid⟩
  openEnd := by
    intro hvariadic
    have htrue : isVariadic = true := hvariadic
    exact ⟨params, if_pos htrue, h⟩
  closed := by
    intro hclosed
    have hfalse : isVariadic = false := hclosed
    show ∀ slot ∈ if isVariadic then _ else params, slot.type ≠ .varArgs
    rw [hfalse]
    exact h

/-! ### The parts of a converted type

First the constructors are treated, in lemmas that have the names of these, and then the functions
of the converter, from the leaves to the mutual induction on types and parameter lists.
-/

/-- What a conversion may write: a registered name, a well-formed signature, or any other type. -/
def Writes (c : Converter) : TargetType → Prop
  | .named name => name ∈ c.types
  | .func signature => signature.WellFormed
  | _ => True

/-- A conversion may write every part of a type. -/
def WritesAll (c : Converter) (type : TargetType) : Prop :=
  ∀ part, TargetType.Occurs part type → c.Writes part

namespace WritesAll

theorem pointer {pointee : TargetType} (h : c.WritesAll pointee) :
    c.WritesAll (.pointer pointee) := by
  intro part hoccurs
  cases hoccurs with
  | self => trivial
  | pointer hoccurs => exact h part hoccurs

theorem array {elem : TargetType} (h : c.WritesAll elem) (length : Nat) :
    c.WritesAll (.array elem length) := by
  intro part hoccurs
  cases hoccurs with
  | self => trivial
  | array hoccurs => exact h part hoccurs

theorem struct {fields : List (Slot TargetType)} (h : ∀ slot ∈ fields, c.WritesAll slot.type) :
    c.WritesAll (.struct fields) := by
  intro part hoccurs
  cases hoccurs with
  | self => trivial
  | field hslot hoccurs => exact h _ hslot part hoccurs

theorem func {signature : Signature TargetType} (h : signature.WellFormed)
    (hparams : ∀ slot ∈ signature.params, c.WritesAll slot.type)
    (hresults : ∀ type ∈ signature.results, c.WritesAll type) : c.WritesAll (.func signature) := by
  intro part hoccurs
  cases hoccurs with
  | self => exact h
  | param hslot hoccurs => exact hparams _ hslot part hoccurs
  | result htype hoccurs => exact hresults _ htype part hoccurs

theorem void : c.WritesAll .void := by
  rintro _ ⟨⟩
  trivial

theorem scalar (s : Scalar) : c.WritesAll (.scalar s) := by
  rintro _ ⟨⟩
  trivial

theorem opaquePointer : c.WritesAll .opaquePointer := by
  rintro _ ⟨⟩
  trivial

theorem varArgs : c.WritesAll .varArgs := by
  rintro _ ⟨⟩
  trivial

theorem named {name : String} (h : name ∈ c.types) : c.WritesAll (.named name) := by
  rintro _ ⟨⟩
  exact h

theorem pointerTo {pointee : TargetType} (h : c.WritesAll pointee) :
    c.WritesAll (Converter.pointerTo pointee) := by
  unfold Converter.pointerTo
  split
  · exact opaquePointer
  · exact h
  · exact h.pointer

theorem signatureOf {params : List (Slot TargetType)} {result : TargetType}
    (hopen : ∀ slot ∈ params, slot.type ≠ .varArgs)
    (hparams : ∀ slot ∈ params, c.WritesAll slot.type) (hresult : c.WritesAll result)
    (isVariadic : Bool) : c.WritesAll (.func (Converter.signatureOf params isVariadic result)) := by
  apply func (wellFormed_signatureOf hopen isVariadic result)
  · intro slot hslot
    unfold Converter.signatureOf at hslot
    dsimp only at hslot
    split at hslot
    · rcases List.mem_append.1 hslot with hslot | hslot
      · exact hparams slot hslot
      · rw [List.mem_singleton.1 hslot]
        exact varArgs
    · exact hparams slot hslot
  · intro type htype
    unfold Converter.signatureOf at htype
    dsimp only at htype
    split at htype
    · cases htype
    · rw [List.mem_singleton.1 htype]
      exact hresult

end WritesAll

/-- A built-in type is converted to `void` or to a scalar. -/
theorem writesAll_of_builtin {b : Builtin} {type : TargetType} (h : builtin b = .ok type) :
    c.WritesAll type := by
  rw [builtin] at h
  split at h
  · next found hfound =>
    cases h
    rcases Catalog.eq_void_or_scalar_of_builtin? hfound with rfl | ⟨s, rfl⟩
    · exact .void
    · exact .scalar s
  · cases h

/-- A reference resolves to a scalar or to the registered name itself. -/
theorem writesAll_of_reference {ref : NamedRef} {type : TargetType}
    (h : c.reference ref = .ok type) : c.WritesAll type := by
  rw [reference] at h
  split at h
  · cases h
  · split at h
    · cases h
      exact .scalar _
    · dsimp only at h
      split at h
      · next hmem =>
        cases h
        exact .named hmem
      · cases h

-- by induction on types together with parameter lists: each part of a result is written for this
-- result, or it is part of the result of a part

mutual

/-- **All parts of a converted type are registered names, well-formed signatures or
other types.** -/
theorem writesAll_of_type : ∀ {asParam : Bool} {t : CType} {type : TargetType},
    c.type asParam t = .ok type → c.WritesAll type
  | _, .builtin b, type, h => by
    rw [Converter.type] at h
    exact writesAll_of_builtin h
  | _, .pointer pointee, type, h => by
    rw [Converter.type] at h
    obtain ⟨converted, hpointee, h⟩ := Result.of_bind_eq_ok h
    cases h
    exact (writesAll_of_type hpointee).pointerTo
  | asParam, .array elem length, type, h => by
    rw [Converter.type] at h
    obtain ⟨converted, helem, h⟩ := Result.of_bind_eq_ok h
    have hconverted := writesAll_of_type helem
    split at h
    · cases h
      exact hconverted.pointer
    · split at h
      · cases h
      · obtain ⟨size, -, h⟩ := Result.of_bind_eq_ok h
        cases h
        exact hconverted.array size
  | _, .func ⟨ps, isVariadic, ret⟩, type, h => by
    rw [Converter.type] at h
    obtain ⟨⟨converted, isOpen⟩, hparams, h⟩ := Result.of_bind_eq_ok h
    obtain ⟨convertedRet, hret, h⟩ := Result.of_bind_eq_ok h
    cases h
    exact .signatureOf (varArgs_ne_of_params hparams) (writesAll_of_params hparams)
      (writesAll_of_type hret) _
  | _, .named ref, type, h => by
    rw [Converter.type] at h
    exact writesAll_of_reference h
  | _, .variadic, type, h => by
    rw [Converter.type] at h
    cases h
    exact .varArgs

theorem writesAll_of_params : ∀ {ps : List (Slot CType)} {converted : List (Slot TargetType)}
    {isOpen : Bool}, c.params ps = .ok (converted, isOpen) →
    ∀ slot ∈ converted, c.WritesAll slot.type
  | [], converted, isOpen, h, slot, hslot => by
    rw [params] at h
    cases h
    cases hslot
  | ⟨name, t⟩ :: rest, converted, isOpen, h, slot, hslot => by
    rw [params.eq_def] at h
    dsimp only at h
    split at h
    · cases h
      cases hslot
    · cases h
    · obtain ⟨first, hfirst, h⟩ := Result.of_bind_eq_ok h
      obtain ⟨⟨others, isOpen⟩, hothers, h⟩ := Result.of_bind_eq_ok h
      cases h
      rcases List.mem_cons.1 hslot with rfl | hslot
      · exact writesAll_of_type hfirst
      · exact writesAll_of_params hothers slot hslot

end

/-- The type of a function is converted to its signature. -/
theorem type_func (asParam : Bool) (f : Prototype CType) :
    c.type asParam (.func f) = (c.signature f).map .func := by
  obtain ⟨ps, isVariadic, ret⟩ := f
  rw [Converter.type, signature]
  cases c.params ps with
  | error cause => rfl
  | ok converted => cases c.type false ret <;> rfl

/-- The signature of a function is put together from its converted parameters and result. -/
theorem signature_eq_ok {f : Prototype CType} {converted : List (Slot TargetType)} {isOpen : Bool}
    (hparams : c.params f.params = .ok (converted, isOpen))
    {type : TargetType} (hresult : c.type false f.result = .ok type) :
    c.signature f = .ok (signatureOf converted (f.variadic || isOpen) type) := by
  rw [signature, hparams]
  show (c.type false f.result >>= _) = _
  rw [hresult]
  rfl

theorem exists_parts_of_signature_eq_ok {f : Prototype CType} {signature : Signature TargetType}
    (h : c.signature f = .ok signature) : ∃ converted isOpen type,
      c.params f.params = .ok (converted, isOpen) ∧ c.type false f.result = .ok type ∧
        signature = signatureOf converted (f.variadic || isOpen) type := by
  rw [Converter.signature] at h
  obtain ⟨⟨converted, isOpen⟩, hparams, h⟩ := Result.of_bind_eq_ok h
  obtain ⟨type, htype, h⟩ := Result.of_bind_eq_ok h
  cases h
  exact ⟨converted, isOpen, type, hparams, htype, rfl⟩

/-- Every parameter of a converted signature is converted, but a `...` at the end. -/
theorem exists_type_of_params_eq_ok {ps : List (Slot CType)}
    {result : List (Slot TargetType) × Bool} (h : c.params ps = .ok result) :
    ∀ slot ∈ ps, slot.type ≠ .variadic → ∃ type, c.type true slot.type = .ok type := by
  induction ps generalizing result with
  | nil => exact fun slot hslot => nomatch hslot
  | cons first rest ih =>
    obtain ⟨name, t⟩ := first
    intro slot hslot hne
    by_cases ht : t = .variadic
    · subst ht
      cases rest with
      | nil =>
        rw [List.mem_singleton.1 hslot] at hne
        exact absurd rfl hne
      | cons next rest => exact absurd h params_ne_ok_of_misplaced
    · rw [params_cons_of_ne ht] at h
      obtain ⟨own, hown, h⟩ := Result.of_bind_eq_ok h
      obtain ⟨others, hothers, -⟩ := Result.of_bind_eq_ok h
      rcases List.mem_cons.1 hslot with rfl | hslot
      · exact ⟨own, hown⟩
      · exact ih hothers slot hslot hne

/-- A function has the signature that its type has, so its parts are those of a converted type. -/
theorem writesAll_of_signature {f : Prototype CType} {signature : Signature TargetType}
    (h : c.signature f = .ok signature) : c.WritesAll (.func signature) := by
  have htype : c.type false (.func f) = .ok (.func signature) := by
    rw [type_func, h]
    rfl
  exact writesAll_of_type htype

/-! ### Records

The alternatives of a union are compared by their sizes, but whatever the sizes are, the one that is
kept is among the converted fields.
-/

theorem exists_type_of_mem_fields {c : Converter} {body : List (Slot CType)}
    {converted : List (Slot TargetType)} {slot : Slot TargetType}
    (h : c.fields body = .ok converted) (hslot : slot ∈ converted) :
    ∃ field ∈ body, c.type false field.type = .ok slot.type := by
  induction body generalizing converted with
  | nil =>
    cases h
    cases hslot
  | cons field rest ih =>
    rw [fields] at h
    obtain ⟨first, hfirst, h⟩ := Result.of_bind_eq_ok h
    obtain ⟨others, hothers, h⟩ := Result.of_bind_eq_ok h
    cases h
    rcases List.mem_cons.1 hslot with rfl | hslot
    · exact ⟨field, List.mem_cons_self, hfirst⟩
    · obtain ⟨other, hother, hok⟩ := ih hothers hslot
      exact ⟨other, List.mem_cons_of_mem field hother, hok⟩

theorem mem_of_largest? {size : TargetType → Nat} {fields : List (Slot TargetType)}
    {best : Slot TargetType} (h : largest? size fields = some best) : best ∈ fields := by
  induction fields generalizing best with
  | nil => cases h
  | cons field rest ih =>
    rw [largest?] at h
    split at h
    · cases h
      exact List.mem_cons_self
    · next other hother =>
      split at h
      · cases h
        exact List.mem_cons_self
      · cases h
        exact List.mem_cons_of_mem field (ih hother)

/-- **A field of a converted record is the conversion of one of its fields**, unless it is the
placeholder. -/
theorem exists_type_of_mem_record {c : Converter} {tag : Tag} {body : List (Slot CType)}
    {converted : List (Slot TargetType)} {slot : Slot TargetType}
    (h : c.record tag body = .ok converted) (hslot : slot ∈ converted) :
    slot ∈ placeholder ∨ ∃ field ∈ body, c.type false field.type = .ok slot.type := by
  rw [record] at h
  split at h
  · cases h
    exact .inl hslot
  · obtain ⟨all, hall, h⟩ := Result.of_bind_eq_ok h
    have hmem : slot ∈ all := by
      split at h
      · cases h
        rw [Option.mem_toList] at hslot
        exact mem_of_largest? hslot
      · cases h
        exact hslot
    exact .inr (exists_type_of_mem_fields hall hmem)

theorem writesAll_of_record {tag : Tag} {body : List (Slot CType)}
    {fields : List (Slot TargetType)} (h : c.record tag body = .ok fields) :
    c.WritesAll (.struct fields) := by
  apply WritesAll.struct
  intro slot hslot
  rcases exists_type_of_mem_record h hslot with hslot | ⟨field, -, hok⟩
  · -- an empty body: the placeholder is an array of bytes
    rw [placeholder, List.mem_singleton] at hslot
    rw [hslot]
    exact (WritesAll.scalar .uint8).array wordSize
  · exact writesAll_of_type hok

end Converter

end HeaderBindings
