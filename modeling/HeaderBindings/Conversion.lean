import HeaderBindings.Catalog
import HeaderBindings.ConversionError
import HeaderBindings.Naming.PrefixRules
import HeaderBindings.Registry

/-!
# Converting declared types

A declared type is converted under prefix rules and a registry:

* `void *` becomes an opaque pointer, and a pointer to a function becomes the function type itself;
* an array becomes a pointer as a parameter, and needs a constant length everywhere else;
* a reference is looked up among the known typedefs first, then among the registered names.

The conversion stops at the first part, from left to right and from the inside out, that cannot be
converted.
-/

namespace HeaderBindings

/-- What conversions depend on. -/
structure Converter where
  rules : PrefixRules
  types : Registry

namespace Converter

abbrev Result (α : Type) := Except ConversionError α

/-- Of two conversions of which the second goes on from the first, both have to succeed. -/
theorem Result.of_bind_eq_ok {α β : Type} {x : Result α} {f : α → Result β} {b : β}
    (h : x >>= f = .ok b) : ∃ a, x = .ok a ∧ f a = .ok b := by
  cases x with
  | error cause => cases h
  | ok a => exact ⟨a, rfl, h⟩

/-- The name of the parameter at the open end of a list. -/
def openEndName : String := "__va_list"

/-- The name of the field that stands in for the body of an empty record. -/
def placeholderName : String := "Unused"

/-- The type of a pointer to a converted type. -/
def pointerTo : TargetType → TargetType
  | .void => .opaquePointer
  | .func signature => .func signature
  | pointee => .pointer pointee

def arrayLength (length : Constant) : Result Nat :=
  match length.closedValue? with
  | some n => if n < 0 then .error (.unresolvedArrayLength length) else .ok n.toInt.toNat
  | none => .error (.unresolvedArrayLength length)

def signatureOf (params : List (Slot TargetType)) (isVariadic : Bool) (result : TargetType) :
    Signature TargetType where
  params := if isVariadic then params ++ [⟨some openEndName, .varArgs⟩] else params
  variadic := isVariadic
  results := match result with
    | .void => []
    | result => [result]

def builtin (b : Builtin) : Result TargetType :=
  match Catalog.builtin? b with
  | some type => .ok type
  | none => .error (.unresolvedBuiltin b)

def reference (c : Converter) (ref : NamedRef) : Result TargetType :=
  if ref.name = "" then .error .anonymousReference
  else
    match Catalog.typedef? (c.rules.trim ref.name) with
    | some known => .ok known.type
    | none =>
      let target := c.rules.typeName ref.name
      if target ∈ c.types then .ok (.named target) else .error (.unresolvedAlias ref.name)

mutual

/-- Converts a type. The outermost array decays to a pointer if the type is that of a parameter. -/
def type (c : Converter) (asParam : Bool) : CType → Result TargetType
  | .builtin b => builtin b
  | .pointer pointee => do
    let pointee ← c.type false pointee
    return pointerTo pointee
  | .array elem length => do
    let elem ← c.type false elem
    if asParam then return .pointer elem
    match length with
    | none => throw .arrayWithoutLength
    | some length => return .array elem (← arrayLength length)
  | .func ⟨params, isVariadic, result⟩ => do
    let (params, isOpen) ← c.params params
    let result ← c.type false result
    return .func (signatureOf params (isVariadic || isOpen) result)
  | .named ref => c.reference ref
  | .variadic => return .varArgs

/-- Converts parameters, and tells whether a `...` ends the list. -/
def params (c : Converter) : List (Slot CType) → Result (List (Slot TargetType) × Bool)
  | [] => return ([], false)
  | ⟨name, paramType⟩ :: rest =>
    match paramType, rest with
    | .variadic, [] => return ([], true)
    | .variadic, _ :: _ => throw .misplacedVariadic
    | paramType, rest => do
      let first ← c.type true paramType
      let (others, isOpen) ← c.params rest
      return (⟨name, first⟩ :: others, isOpen)

end

def signature (c : Converter) (f : Prototype CType) : Result (Signature TargetType) := do
  let (params, isOpen) ← c.params f.params
  let result ← c.type false f.result
  return signatureOf params (f.variadic || isOpen) result

/-! ### Records -/

def fields (c : Converter) : List (Slot CType) → Result (List (Slot TargetType))
  | [] => return []
  | ⟨name, fieldType⟩ :: rest => do
    let first ← c.type false fieldType
    let others ← c.fields rest
    return ⟨name, first⟩ :: others

/-- The largest of some fields; of several, the last one. -/
def largest? (size : TargetType → Nat) : List (Slot TargetType) → Option (Slot TargetType)
  | [] => none
  | field :: rest =>
    match largest? size rest with
    | none => some field
    | some best => if size best.type < size field.type then some field else some best

/-- The fields that stand in for the body of an empty record: one of the size of a pointer. -/
def placeholder : List (Slot TargetType) :=
  [⟨some placeholderName, .array (.scalar .uint8) wordSize⟩]

/-- Converts the body of a record to the fields of a struct. An empty body gets a placeholder. -/
def record (c : Converter) (tag : Tag) (body : List (Slot CType)) :
    Result (List (Slot TargetType)) := do
  if body.isEmpty then return placeholder
  let converted ← c.fields body
  match tag with
  -- the largest field takes up the room of all
  | .union => return (largest? c.types.sizeOf converted).toList
  | _ => return converted

/-- Whether the conversion of the body of a record ends. All fields of a union are measured as soon
as they are converted, and measuring a type that contains itself by value goes on forever. -/
def recordEnds (c : Converter) (tag : Tag) (body : List (Slot CType)) : Bool :=
  match tag, c.fields body with
  | .union, .ok converted => converted.all fun field => (c.types.layout? field.type).isSome
  | _, _ => true

def typeName (c : Converter) (name : String) : String := c.rules.typeName name

end Converter

end HeaderBindings
