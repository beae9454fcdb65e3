import HeaderBindings.Proofs.Conversion.References

/-!
# Conversions under more registered names

A reference resolves to its own name, whatever is registered under it. So a conversion that succeeds
still succeeds, and gives the same result, when more names are registered (`type_of_knownBy`). Two
successful conversions of one type give the same result even if neither of them knows all names of
the other (`type_unique`, `fields_unique`).

## What a conversion takes from the registry

The registry is asked two questions, and they are answered differently when it grows.

| question | asked for | with more names |
|---|---|---|
| is a name registered? | every reference | `yes` stays `yes` |
| how large is a type? | the alternatives of a union | may change with its names |

Only the first question occurs in the conversion of types, parameters and fields. A conversion that
succeeds has got the answer `yes` to all its questions, so that it goes the same way under more
names; that is the whole of the induction. It goes through types together with parameter lists,
because signatures are types and hold parameters.

For a union the second question remains. A union can still be converted under more names
(`exists_record_of_knownBy`), but it is only known to keep the same alternative if both converters
measure the same sizes (`record_unique`).

## Converters that do not know each other's names

Two converters are compared by way of a third one, whose registry has the names of both
(`exists_knownBy`). What it makes of a type is what each of the two makes of it, if that succeeds.
So nothing has to be proved by a second induction on types.
-/

namespace HeaderBindings.Converter

/-- A second converter trims alike and knows at least the names of the first one. -/
structure KnownBy (c c' : Converter) : Prop where
  rules : c'.rules = c.rules
  types : ∀ name ∈ c.types, name ∈ c'.types

variable {c c' : Converter}

/-- A reference that resolves is known to the catalog, or its name is registered; either way it
resolves to the same type under more names. -/
theorem reference_of_knownBy (h : c.KnownBy c') {ref : NamedRef} {result : TargetType}
    (hok : c.reference ref = .ok result) : c'.reference ref = .ok result := by
  rw [reference] at hok ⊢
  rw [h.rules]
  split at hok
  · cases hok
  · next hname =>
    rw [if_neg hname]
    cases hknown : Catalog.typedef? (c.rules.trim ref.name) with
    | some known =>
      rw [hknown] at hok
      exact hok
    | none =>
      rw [hknown] at hok
      dsimp only at hok ⊢
      split at hok
      · next hmem =>
        rw [if_pos (h.types _ hmem)]
        exact hok
      · cases hok

/-! ### Types and parameters

Each case does with the converter that knows more names what was done with the other one: the parts
are converted in the same order, each of them by the induction, and the rest of the case is the same
computation.
-/

-- by induction on types together with parameter lists: each part that is converted under fewer
-- names is converted to the same under more

mutual

/-- **A conversion gives the same result under more names.** -/
theorem type_of_knownBy (h : c.KnownBy c') : ∀ {asParam : Bool} {t : CType} {result : TargetType},
    c.type asParam t = .ok result → c'.type asParam t = .ok result
  | _, .builtin b, result, hok => by
    rw [type] at hok ⊢
    exact hok
  | _, .pointer pointee, result, hok => by
    rw [type] at hok ⊢
    obtain ⟨converted, hpointee, hok⟩ := Result.of_bind_eq_ok hok
    rw [type_of_knownBy h hpointee]
    exact hok
  | asParam, .array elem length, result, hok => by
    rw [type] at hok ⊢
    obtain ⟨converted, helem, hok⟩ := Result.of_bind_eq_ok hok
    rw [type_of_knownBy h helem]
    exact hok
  | _, .func ⟨ps, isVariadic, ret⟩, result, hok => by
    rw [type] at hok ⊢
    obtain ⟨⟨converted, isOpen⟩, hparams, hok⟩ := Result.of_bind_eq_ok hok
    obtain ⟨convertedRet, hret, hok⟩ := Result.of_bind_eq_ok hok
    rw [params_of_knownBy h hparams]
    show (c'.type false ret >>= _) = _
    rw [type_of_knownBy h hret]
    exact hok
  | _, .named ref, result, hok => by
    rw [type] at hok ⊢
    exact reference_of_knownBy h hok
  | _, .variadic, result, hok => by
    rw [type] at hok ⊢
    exact hok

theorem params_of_knownBy (h : c.KnownBy c') : ∀ {ps : List (Slot CType)}
    {converted : List (Slot TargetType)} {isOpen : Bool},
    c.params ps = .ok (converted, isOpen) → c'.params ps = .ok (converted, isOpen)
  | [], converted, isOpen, hok => by
    rw [params] at hok ⊢
    exact hok
  | ⟨name, t⟩ :: rest, converted, isOpen, hok => by
    rw [params.eq_def] at hok ⊢
    dsimp only at hok ⊢
    split at hok
    · exact hok
    · cases hok
    · obtain ⟨first, hfirst, hok⟩ := Result.of_bind_eq_ok hok
      obtain ⟨⟨others, isOpen⟩, hothers, hok⟩ := Result.of_bind_eq_ok hok
      rw [type_of_knownBy h hfirst]
      show (c'.params rest >>= _) = _
      rw [params_of_knownBy h hothers]
      exact hok

end

theorem signature_of_knownBy (h : c.KnownBy c') {f : Prototype CType}
    {result : Signature TargetType} (hok : c.signature f = .ok result) :
    c'.signature f = .ok result := by
  rw [signature] at hok ⊢
  obtain ⟨⟨converted, isOpen⟩, hparams, hok⟩ := Result.of_bind_eq_ok hok
  obtain ⟨convertedRet, hret, hok⟩ := Result.of_bind_eq_ok hok
  rw [params_of_knownBy h hparams]
  show (c'.type false f.result >>= _) = _
  rw [type_of_knownBy h hret]
  exact hok

theorem fields_of_knownBy (h : c.KnownBy c') {body : List (Slot CType)}
    {converted : List (Slot TargetType)} (hok : c.fields body = .ok converted) :
    c'.fields body = .ok converted := by
  induction body generalizing converted with
  | nil => exact hok
  | cons field rest ih =>
    rw [fields] at hok ⊢
    obtain ⟨first, hfirst, hok⟩ := Result.of_bind_eq_ok hok
    obtain ⟨others, hothers, hok⟩ := Result.of_bind_eq_ok hok
    rw [type_of_knownBy h hfirst]
    show (c'.fields rest >>= _) = _
    rw [ih hothers]
    exact hok

/-- A record can be converted under more names as well. A union may keep another field then, since
sizes depend on what is registered under a name. -/
theorem exists_record_of_knownBy (h : c.KnownBy c') {tag : Tag} {body : List (Slot CType)}
    {converted : List (Slot TargetType)} (hok : c.record tag body = .ok converted) :
    ∃ converted', c'.record tag body = .ok converted' := by
  rw [record] at hok ⊢
  split at hok
  · next hempty => exact ⟨placeholder, if_pos hempty⟩
  · next hempty =>
    obtain ⟨all, hall, -⟩ := Result.of_bind_eq_ok hok
    rw [if_neg hempty, fields_of_knownBy h hall]
    cases tag
    all_goals exact ⟨_, rfl⟩

/-! ### Two conversions

The third converter is needed for the proof only. What is registered in it under the names does not
matter, since conversions of types do not look at that.
-/

/-- A converter that knows the names of both registries. -/
theorem exists_knownBy (hrules : c'.rules = c.rules) : ∃ d, c.KnownBy d ∧ c'.KnownBy d := by
  refine ⟨⟨c.rules, c.types.insertAll c'.types.entries⟩, ⟨rfl, ?_⟩, ⟨hrules.symm, ?_⟩⟩
  · intro name hmem
    rw [← OrderedMap.isSome_get?_iff] at hmem ⊢
    rw [OrderedMap.get?_insertAll_entries, Option.isSome_or, hmem, Bool.or_true]
  · intro name hmem
    rw [← OrderedMap.isSome_get?_iff] at hmem ⊢
    rw [OrderedMap.get?_insertAll_entries, Option.isSome_or, hmem, Bool.true_or]

/-- **Two conversions of a type that succeed give the same result.** -/
theorem type_unique (hrules : c'.rules = c.rules) {asParam : Bool} {t : CType}
    {result result' : TargetType} (h : c.type asParam t = .ok result)
    (h' : c'.type asParam t = .ok result') : result = result' := by
  obtain ⟨d, hd, hd'⟩ := exists_knownBy hrules
  exact Except.ok.inj ((type_of_knownBy hd h).symm.trans (type_of_knownBy hd' h'))

/-- **Two conversions of some fields that succeed give the same fields.** -/
theorem fields_unique (hrules : c'.rules = c.rules) {body : List (Slot CType)}
    {fields fields' : List (Slot TargetType)} (h : c.fields body = .ok fields)
    (h' : c'.fields body = .ok fields') : fields = fields' := by
  obtain ⟨d, hd, hd'⟩ := exists_knownBy hrules
  exact Except.ok.inj ((fields_of_knownBy hd h).symm.trans (fields_of_knownBy hd' h'))

/-- Fields with the same sizes have the same largest one. -/
theorem largest?_congr {size size' : TargetType → Nat} {fields : List (Slot TargetType)}
    (h : ∀ field ∈ fields, size field.type = size' field.type) :
    largest? size fields = largest? size' fields := by
  induction fields with
  | nil => rfl
  | cons field rest ih =>
    have hrest := ih fun other hother => h other (List.mem_cons_of_mem field hother)
    rw [largest?, largest?, hrest]
    cases hbest : largest? size' rest with
    | none => rfl
    | some best =>
      have hmem : best ∈ field :: rest := List.mem_cons_of_mem field (mem_of_largest? hbest)
      dsimp only
      rw [h field List.mem_cons_self, h best hmem]

/-- **Two conversions of a record that succeed give the same result**, if both of them measure the
same sizes. -/
theorem record_unique (hrules : c'.rules = c.rules) {tag : Tag} {body : List (Slot CType)}
    {fields fields' : List (Slot TargetType)}
    (hsizes : ∀ type, (∀ name, type.Mentions name → name ∈ c.types ∧ name ∈ c'.types) →
      c.types.sizeOf type = c'.types.sizeOf type)
    (h : c.record tag body = .ok fields) (h' : c'.record tag body = .ok fields') :
    fields = fields' := by
  rw [record] at h h'
  split at h
  · next hempty =>
    rw [if_pos hempty] at h'
    exact Except.ok.inj (h.symm.trans h')
  · next hempty =>
    rw [if_neg hempty] at h'
    obtain ⟨all, hall, h⟩ := Result.of_bind_eq_ok h
    obtain ⟨all', hall', h'⟩ := Result.of_bind_eq_ok h'
    obtain rfl := fields_unique hrules hall hall'
    have hlargest : largest? c.types.sizeOf all = largest? c'.types.sizeOf all := by
      apply largest?_congr
      intro field hfield
      apply hsizes
      intro name hmentions
      obtain ⟨own, -, hok⟩ := exists_type_of_mem_fields hall hfield
      obtain ⟨own', -, hok'⟩ := exists_type_of_mem_fields hall' hfield
      exact ⟨mem_of_type_mentions hok hmentions, mem_of_type_mentions hok' hmentions⟩
    cases tag with
    | union =>
      cases h
      cases h'
      rw [hlargest]
    | _ =>
      cases h
      cases h'
      rfl

end HeaderBindings.Converter
