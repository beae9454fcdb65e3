import HeaderBindings.Proofs.Session.Outcome

/-!
# The types that declarations declare

A record, an enumeration or a typedef declares a type under a target name, which depends on the
prefix rules alone. A visit registers what the declaration is converted to, if the name is free; and
this is all that it does to the registry (`Outcome.registration`).

The two halves are kept apart. Which name a declaration declares (`declaredType?`) can be told
before a run begins, and results that compare whole runs, in another order of headers or with other
declarations in between, are stated with it. What is registered under the name (`RegistersAs`)
depends on the session as well, since a conversion looks up the types that it refers to.
-/

namespace HeaderBindings.Session

variable {s t : Session} {p : Place} {d : Decl} {target : String} {type : DeclaredType}

/-- The name of the type that a declaration declares. A record or an enumeration without a name
declares none, and neither does a typedef of a known name or of a type's own name. -/
def declaredType? (s : Session) (d : Decl) : Option String :=
  match d.kind with
  | .record name _ _ => if name = "" then none else some (s.rules.typeName name)
  | .enum name _ => (name.filter (· ≠ "")).map s.rules.typeName
  | .typedef name underlying =>
    let target := s.rules.typeName name
    if (Catalog.typedef? (s.rules.trim name)).isSome || s.renamesTag target underlying then none
    else some target
  | .function _ | .scope _ | .linkage | .unknown _ => none

/-- The session matters by its prefix rules only. -/
theorem declaredType?_congr (h : t.rules = s.rules) (d : Decl) :
    t.declaredType? d = s.declaredType? d := by
  have hrenames : ∀ target underlying,
      t.renamesTag target underlying = s.renamesTag target underlying := by
    intro target underlying
    unfold renamesTag
    rw [h]
  unfold declaredType?
  simp only [h, hrenames]

/-! ### The type of a declaration, by kind

One lemma for each kind that declares a type. A typedef declares none in two cases: a name such as
`int32_t` has a fixed meaning in the target, and `typedef struct foo foo` would make an alias of a
type to itself.
-/

/-- A record with a name declares the type of that name. -/
theorem declaredType?_record {name : String} {tag : Tag} {body : List (Slot CType)}
    (hkind : d.kind = .record name tag body) (hname : name ≠ "") :
    s.declaredType? d = some (s.rules.typeName name) := by
  unfold declaredType?
  rw [hkind]
  exact if_neg hname

/-- So does an enumeration; one without a name only has its enumerators bound. -/
theorem declaredType?_enum {name : Option String} {items : List Enumerator}
    (hkind : d.kind = .enum name items) :
    s.declaredType? d = (name.filter (· ≠ "")).map s.rules.typeName := by
  unfold declaredType?
  rw [hkind]

theorem declaredType?_typedef {name : String} {underlying : CType}
    (hkind : d.kind = .typedef name underlying) :
    s.declaredType? d =
      if (Catalog.typedef? (s.rules.trim name)).isSome ||
          s.renamesTag (s.rules.typeName name) underlying then none
      else some (s.rules.typeName name) := by
  unfold declaredType?
  rw [hkind]

/-- A declaration that a visit takes for a typedef declares its name. -/
theorem IsTypedef.declaredType?_eq {name : String} {underlying : CType}
    (h : s.IsTypedef d name underlying) : s.declaredType? d = some (s.rules.typeName name) := by
  rw [declaredType?_typedef h.kind]
  refine if_neg fun hpasses => ?_
  exact (Bool.or_eq_true_iff.1 hpasses).elim h.unknown h.renames

/-- A declaration that a visit passes over declares no type. -/
theorem Passes.declaredType?_eq_none (h : s.Passes p d) : s.declaredType? d = none := by
  cases h with
  | scope hkind | linkage hkind | unknown hkind | hiddenFunction hkind =>
    unfold declaredType?
    rw [hkind]
  | unnamedRecord hkind =>
    unfold declaredType?
    rw [hkind]
    rfl
  | knownTypedef hkind hknown =>
    rw [declaredType?_typedef hkind, hknown, Bool.true_or, if_pos rfl]
  | renamedTag hkind hrenames =>
    rw [declaredType?_typedef hkind, hrenames, Bool.or_true, if_pos rfl]

/-! ### What a visit registers

The outcomes of a visit fall into those that leave the registry alone and those that register one
type. The first kind contains failures and free names that are taken already; the second needs the
name to be free and the conversion to succeed.
-/

/-- A declaration can be converted, and is registered like this if its target name is free. -/
inductive RegistersAs (s : Session) (d : Decl) (target : String) : DeclaredType → Prop where
  | record {name tag body fields} : d.kind = .record name tag body →
      (s.openRecord target).converter.record tag body = .ok fields →
      RegistersAs s d target ⟨.struct, .struct fields⟩
  | typedef {name underlying type} : d.kind = .typedef name underlying →
      s.converter.type false underlying = .ok type → RegistersAs s d target ⟨.alias, type⟩
  | enum {name items} : d.kind = .enum name items →
      RegistersAs s d target ⟨.enum, Catalog.enumType⟩

/-- The names in a type that is registered were registered before, or the type contains its own. -/
theorem RegistersAs.mem_of_mentions (h : s.RegistersAs d target type) {n : String}
    (hmentions : type.underlying.Mentions n) : n = target ∨ n ∈ s.types := by
  cases h with
  | record hkind hok =>
    -- the fields were converted while the name of the record was registered
    have hopened : n ∈ (s.openRecord target).types :=
      Converter.mem_of_record_mentions hok hmentions
    exact Registry.mem_register.1 hopened
  | typedef hkind hok => exact .inr (Converter.mem_of_type_mentions hok hmentions)
  | enum => cases hmentions

/-- **A visit registers what its declaration is converted to, under a free name**, or nothing. -/
theorem Outcome.registration (h : Outcome s p d t) :
    t.types = s.types ∨ ∃ target type, s.declaredType? d = some target ∧ target ∉ s.types ∧
      s.RegistersAs d target type ∧ t.types = s.types.register target type := by
  cases h with
  | passed => exact .inl rfl
  | failed =>
    rw [skip_eq]
    exact .inl rfl
  | function => exact .inl rfl
  | takenRecord | takenTypedef => exact .inl (types_emitType s p d _)
  | record hkind hname hfree hok =>
    exact .inr ⟨_, _, declaredType?_record hkind hname, hfree, .record hkind hok,
      types_declareType s p d _ _⟩
  | typedef htypedef hfree hok =>
    exact .inr ⟨_, _, htypedef.declaredType?_eq, hfree, .typedef htypedef.kind hok,
      types_declareType s p d _ _⟩
  | @enum name items values hkind =>
    rw [types_bindEnumerators]
    have htarget := declaredType?_enum (s := s) hkind
    unfold declareEnum
    split
    · next own hown =>
      rw [hown] at htarget
      rw [types_declareType]
      by_cases hmem : s.rules.typeName own ∈ s.types
      · rw [Registry.register, if_pos hmem]
        exact .inl rfl
      · exact .inr ⟨_, _, htarget, hmem, .enum hkind, rfl⟩
    · exact .inl rfl

/-- A declaration that can be converted is registered when its visit ends. -/
theorem Outcome.mem_of_declared (h : Outcome s p d t) (htarget : s.declaredType? d = some target)
    (hok : ∀ label cause, ¬ s.FailsAt p d label cause) : target ∈ t.types := by
  cases h with
  | passed hpasses => cases hpasses.declaredType?_eq_none.symm.trans htarget
  | failed hfails => exact absurd hfails (hok _ _)
  | function hkind =>
    unfold declaredType? at htarget
    rw [hkind] at htarget
    cases htarget
  | takenRecord hkind hname hmem =>
    cases (declaredType?_record hkind hname).symm.trans htarget
    rw [types_emitType]
    exact hmem
  | takenTypedef htypedef hmem =>
    cases htypedef.declaredType?_eq.symm.trans htarget
    rw [types_emitType]
    exact hmem
  | record hkind hname =>
    cases (declaredType?_record hkind hname).symm.trans htarget
    rw [types_declareType]
    exact Registry.mem_register.2 (.inl rfl)
  | typedef htypedef =>
    cases htypedef.declaredType?_eq.symm.trans htarget
    rw [types_declareType]
    exact Registry.mem_register.2 (.inl rfl)
  | @enum name items values hkind =>
    rw [declaredType?_enum hkind] at htarget
    obtain ⟨own, hown, rfl⟩ := Option.map_eq_some_iff.1 htarget
    rw [types_bindEnumerators, declareEnum, hown, types_declareType]
    exact Registry.mem_register.2 (.inl rfl)

end HeaderBindings.Session
