import HeaderBindings.Proofs.Conversion.Signatures
import HeaderBindings.Proofs.Session.ShownTypes

/-!
# Every signature is well formed

Functions are bound with their signatures, and types nest further ones: behind pointers, in arrays,
parameters and fields. All of them come from conversions, so all of them have the form that a
converted signature has.
-/

namespace HeaderBindings.Session

/-- What a declaration gives has well-formed signatures only. -/
theorem Gives.signatures {s t : Session} {type : TargetType} (h : Gives s t type) :
    type.SignaturesWellFormed := by
  cases h with
  | signature hok => exact Converter.signatures_of_signature hok
  | type hok => exact Converter.signatures_of_type hok
  | record hok => exact Converter.signatures_of_record hok
  | enum => exact fun s hoccurs => nomatch hoccurs

/-- **Every signature is well formed, wherever it occurs, and an open end has one form.**

Whatever a conversion of a type, of a function or of a record gives, each signature in it, at any
depth, has at most one result, which is not `void`; it ends with the parameter for the open end if
it is variadic, and has no such parameter anywhere else. The same holds of everything that is
registered or bound in a run. And parameters without a `...` are converted alike, to the same
signature or the same error, with the open end flagged, as a last parameter of any name, or both. -/
theorem signatures_wellFormed (c : Converter) (options : SessionOptions)
    (units : List HeaderUnit) :
    (∀ asParam t type, c.type asParam t = .ok type → type.SignaturesWellFormed) ∧
    (∀ f signature, c.signature f = .ok signature →
      (TargetType.func signature).SignaturesWellFormed) ∧
    (∀ tag body fields, c.record tag body = .ok fields →
      (TargetType.struct fields).SignaturesWellFormed) ∧
    (∀ name declared, ((start options).processAll units).types.get? name = some declared →
      declared.underlying.SignaturesWellFormed) ∧
    (∀ b ∈ ((start options).processAll units).package.bindings, b.shown.SignaturesWellFormed) ∧
    ∀ ps : List (Slot CType), (∀ slot ∈ ps, slot.type ≠ .variadic) → ∀ result name,
      c.signature ⟨ps ++ [⟨name, .variadic⟩], false, result⟩ = c.signature ⟨ps, true, result⟩ ∧
      c.signature ⟨ps ++ [⟨name, .variadic⟩], true, result⟩ = c.signature ⟨ps, true, result⟩ := by
  have hshown := of_shows_processAll (fun _ _ _ h => h.signatures) options units
  refine ⟨fun _ _ _ => Converter.signatures_of_type, fun _ _ => Converter.signatures_of_signature,
    fun _ _ _ => Converter.signatures_of_record, ?_, ?_, ?_⟩
  · exact fun name declared hget => hshown declared.underlying (.registered hget)
  · exact fun b hb => hshown b.shown (.bound hb)
  · intro ps hps result name
    exact ⟨Converter.signature_concat name false hps result,
      Converter.signature_concat name true hps result⟩

def callbackType : CType :=
  .pointer (.func
    { params := [⟨some "format", .pointer (.builtin .char)⟩], variadic := true
      result := .builtin .void })

example : (start {}).converter.type false callbackType =
    .ok (.func
      { params := [⟨some "format", .pointer (.scalar .char)⟩, ⟨some "__va_list", .varArgs⟩]
        variadic := true
        results := [] }) := by
  rfl

end HeaderBindings.Session
