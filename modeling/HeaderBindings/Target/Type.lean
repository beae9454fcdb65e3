import HeaderBindings.Header.Type

/-!
# Types of the generated bindings

The types that bindings are written in, and their text: `c.Int`, `*T`, `[8]uint8`,
`func(a c.Int) c.Int`, `struct { x c.Int }`.
-/

namespace HeaderBindings

inductive Scalar where
  | bool
  /-- The `char` of C, whose sign is not tracked. -/
  | char
  | uint8 | int16 | uint16 | int32
  | int | uint | long | ulong | longLong | ulongLong
  | float | double | complex64 | complex128
  deriving Repr, DecidableEq

def Scalar.text : Scalar → String
  | bool => "bool"
  | char => "c.Char"
  | uint8 => "uint8"
  | int16 => "int16"
  | uint16 => "uint16"
  | int32 => "int32"
  | int => "c.Int"
  | uint => "c.Uint"
  | long => "c.Long"
  | ulong => "c.Ulong"
  | longLong => "c.LongLong"
  | ulongLong => "c.UlongLong"
  | float => "c.Float"
  | double => "c.Double"
  | complex64 => "complex64"
  | complex128 => "complex128"

/-- The signature of a function. A variadic one ends with a parameter of type `varArgs`, and a
function that returns nothing has no result. -/
structure Signature (τ : Type) where
  params : List (Slot τ)
  variadic : Bool
  results : List τ
  deriving Repr, DecidableEq

inductive TargetType where
  /-- No value: the result of a function that returns nothing, or the pointee of `void *`. -/
  | void
  | scalar (s : Scalar)
  /-- The type of `void *`. -/
  | opaquePointer
  | pointer (pointee : TargetType)
  | array (elem : TargetType) (length : Nat)
  | func (signature : Signature TargetType)
  /-- A declared type, by its target name. -/
  | named (name : String)
  | struct (fields : List (Slot TargetType))
  /-- The open end of an argument list. -/
  | varArgs
  deriving Repr

namespace TargetType

/-- A name in front of a type, with a blank between them; an unnamed slot shows its type only. -/
def withName (name : Option String) (text : String) : String :=
  match name with
  | some name => name ++ " " ++ text
  | none => text

mutual

def render : TargetType → String
  | void => "invalid type"
  | scalar s => s.text
  | opaquePointer => "c.Pointer"
  | pointer pointee => "*" ++ render pointee
  | array elem length => "[" ++ length.repr ++ "]" ++ render elem
  | func ⟨params, isVariadic, results⟩ =>
    "func(" ++ Text.joined ", " (renderParams isVariadic params) ++ ")" ++ renderResult results
  | named name => name
  | struct [] => "struct\x7b\x7d"
  | struct fields => "struct \x7b " ++ Text.joined "; " (renderFields fields) ++ " \x7d"
  | varArgs => "[]any"

/-- The texts of parameters; the last one of a variadic list takes any number of arguments. -/
def renderParams (isVariadic : Bool) : List (Slot TargetType) → List String
  | [] => []
  | ⟨name, type⟩ :: rest =>
    withName name (if isVariadic && rest.isEmpty then "...any" else render type)
      :: renderParams isVariadic rest

def renderFields : List (Slot TargetType) → List String
  | [] => []
  | ⟨name, type⟩ :: rest => withName name (render type) :: renderFields rest

/-- The text of a result, behind a blank. Only the first one is shown. -/
def renderResult : List TargetType → String
  | [] => ""
  | result :: _ => " " ++ render result

end

end TargetType

def Signature.render (s : Signature TargetType) : String := (TargetType.func s).render

end HeaderBindings
