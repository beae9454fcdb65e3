import HeaderBindings.Proofs.Conversion.Parts

/-!
# What converted types refer to

A type of the target refers to declared types by name, at any depth. The conversion only writes
names that it has found in the registry, so the result of a conversion refers to registered names
only (`mem_of_type_mentions`, `mem_of_signature_mentions`, `mem_of_record_mentions`).
-/

namespace HeaderBindings

/-- A name occurs in a type, at any depth. -/
inductive TargetType.Mentions (n : String) : TargetType → Prop where
  | named : Mentions n (.named n)
  | pointer {pointee} : Mentions n pointee → Mentions n (.pointer pointee)
  | array {elem length} : Mentions n elem → Mentions n (.array elem length)
  | param {signature} {slot : Slot TargetType} :
      slot ∈ signature.params → Mentions n slot.type → Mentions n (.func signature)
  | result {signature type} :
      type ∈ signature.results → Mentions n type → Mentions n (.func signature)
  | field {fields} {slot : Slot TargetType} :
      slot ∈ fields → Mentions n slot.type → Mentions n (.struct fields)

theorem TargetType.Mentions.occurs {n : String} {type : TargetType} (h : type.Mentions n) :
    (TargetType.named n).Occurs type := by
  induction h with
  | named => exact .self
  | pointer _ ih => exact .pointer ih
  | array _ ih => exact .array ih
  | param hslot _ ih => exact .param hslot ih
  | result htype _ ih => exact .result htype ih
  | field hslot _ ih => exact .field hslot ih

namespace Converter

variable {c : Converter} {n : String}

/-- **A converted type refers to registered names only.** -/
theorem mem_of_type_mentions {asParam : Bool} {t : CType} {result : TargetType}
    (h : c.type asParam t = .ok result) (hmentions : result.Mentions n) : n ∈ c.types :=
  writesAll_of_type h _ hmentions.occurs

/-- **A converted signature refers to registered names only.** -/
theorem mem_of_signature_mentions {f : Prototype CType} {signature : Signature TargetType}
    (h : c.signature f = .ok signature) (hmentions : (TargetType.func signature).Mentions n) :
    n ∈ c.types :=
  writesAll_of_signature h _ hmentions.occurs

/-- **The fields of a converted record refer to registered names only.** -/
theorem mem_of_record_mentions {tag : Tag} {body : List (Slot CType)}
    {converted : List (Slot TargetType)} (h : c.record tag body = .ok converted)
    (hmentions : (TargetType.struct converted).Mentions n) : n ∈ c.types :=
  writesAll_of_record h _ hmentions.occurs

end Converter

end HeaderBindings
