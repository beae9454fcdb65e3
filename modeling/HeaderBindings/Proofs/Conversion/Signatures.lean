import HeaderBindings.Proofs.Conversion.Parts

/-!
# The form of converted signatures

Every signature that a conversion writes, at any depth of its result, is well formed
(`signatures_of_type`, `signatures_of_signature`, `signatures_of_record`). A `...` may be flagged,
stand as the last parameter, or both: the conversion does not tell these apart (`signature_concat`).
-/

namespace HeaderBindings

/-- All signatures that occur in a type are well formed. -/
def TargetType.SignaturesWellFormed (type : TargetType) : Prop :=
  ∀ s, (TargetType.func s).Occurs type → s.WellFormed

namespace Converter

variable {c : Converter}

/-- **All signatures in a converted type are well formed.** -/
theorem signatures_of_type {asParam : Bool} {t : CType} {type : TargetType}
    (h : c.type asParam t = .ok type) : type.SignaturesWellFormed :=
  fun _ hoccurs => writesAll_of_type h _ hoccurs

/-- **All signatures in a converted signature are well formed**, the signature itself included. -/
theorem signatures_of_signature {f : Prototype CType} {signature : Signature TargetType}
    (h : c.signature f = .ok signature) : (TargetType.func signature).SignaturesWellFormed :=
  fun _ hoccurs => writesAll_of_signature h _ hoccurs

/-- **All signatures in the fields of a converted record are well formed.** -/
theorem signatures_of_record {tag : Tag} {body : List (Slot CType)}
    {fields : List (Slot TargetType)} (h : c.record tag body = .ok fields) :
    (TargetType.struct fields).SignaturesWellFormed :=
  fun _ hoccurs => writesAll_of_record h _ hoccurs

/-! ### Spellings of an open end -/

/-- A `...` behind parameters without one opens the list, and changes nothing else. -/
theorem params_concat (name : Option String) {ps : List (Slot CType)}
    (h : ∀ slot ∈ ps, slot.type ≠ .variadic) :
    c.params (ps ++ [⟨name, .variadic⟩]) =
      (c.params ps).map fun converted => (converted.1, true) := by
  induction ps with
  | nil => rw [List.nil_append, params, params]; rfl
  | cons first rest ih =>
    obtain ⟨own, t⟩ := first
    have ht : t ≠ .variadic := h _ List.mem_cons_self
    have hrest := ih fun slot hslot => h slot (List.mem_cons_of_mem _ hslot)
    rw [List.cons_append, params_cons_of_ne ht, params_cons_of_ne ht, hrest]
    cases c.type true t with
    | error cause => rfl
    | ok converted => cases c.params rest <;> rfl

/-- **A flag, a last parameter and both of them spell the same open end.** -/
theorem signature_concat (name : Option String) (isVariadic : Bool) {ps : List (Slot CType)}
    (h : ∀ slot ∈ ps, slot.type ≠ .variadic) (result : CType) :
    c.signature ⟨ps ++ [⟨name, .variadic⟩], isVariadic, result⟩ =
      c.signature ⟨ps, true, result⟩ := by
  unfold signature
  dsimp only
  rw [params_concat name h]
  cases c.params ps with
  | error cause => rfl
  | ok converted =>
    cases c.type false result with
    | error cause => rfl
    | ok convertedResult =>
      show Except.ok (signatureOf converted.1 (isVariadic || true) convertedResult) =
        Except.ok (signatureOf converted.1 (true || converted.2) convertedResult)
      rw [Bool.or_true, Bool.true_or]

end Converter

end HeaderBindings
