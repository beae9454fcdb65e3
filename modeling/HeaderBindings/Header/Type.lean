import HeaderBindings.Header.Constant
import HeaderBindings.Text.Blank

/-!
# Types as a header declares them

A declared type is a tree of builtin scalars, pointers, arrays, functions and references to named
types. `CType.spelling` writes it the way diagnostics show it.
-/

namespace HeaderBindings

/-- The base of a builtin scalar type. -/
inductive BuiltinKind where
  | void | bool | char | wchar | char16 | char32 | int | float | complex
  deriving Repr, DecidableEq

/-- The modifiers that refine a base: `unsigned long` is `int` with two of them. -/
structure Modifiers where
  signed : Bool := false
  unsigned : Bool := false
  short : Bool := false
  long : Bool := false
  longLong : Bool := false
  double : Bool := false
  deriving Repr, DecidableEq

structure Builtin where
  kind : BuiltinKind
  modifiers : Modifiers := {}
  deriving Repr, DecidableEq

namespace Builtin

def void : Builtin := ⟨.void, {}⟩

def int : Builtin := ⟨.int, {}⟩

def char : Builtin := ⟨.char, {}⟩

def double : Builtin := ⟨.float, { double := true }⟩

/-- The base as C spells it, where the modifiers other than the sign select among spellings. -/
def baseSpelling (b : Builtin) : String :=
  let m := b.modifiers
  match b.kind with
  | .void => "void"
  | .bool => "bool"
  | .char => "char"
  | .wchar => "wchar_t"
  | .char16 => "char16_t"
  | .char32 => "char32_t"
  | .int =>
    if m.short then "short" else if m.longLong then "long long" else if m.long then "long"
    else "int"
  | .float =>
    if m.double && m.long then "long double" else if m.double then "double" else "float"
  | .complex => if m.double then "_Complex double" else "_Complex float"

def spelling (b : Builtin) : String :=
  let sign :=
    if b.modifiers.unsigned then "unsigned " else if b.modifiers.signed then "signed " else ""
  sign ++ b.baseSpelling

end Builtin

/-- The keyword in front of a reference to a record or an enumeration. -/
inductive Tag where
  | struct | union | classTag | enum
  deriving Repr, DecidableEq

def Tag.keyword : Tag → String
  | struct => "struct"
  | union => "union"
  | classTag => "class"
  | enum => "enum"

structure NamedRef where
  name : String
  /-- The enclosing namespaces and classes, outermost first. -/
  scope : List String := []
  tag : Option Tag := none
  deriving Repr, DecidableEq

/-- The name behind its scope: `ns::Class::name`. -/
def NamedRef.qualified (r : NamedRef) : String := Text.joined "::" (r.scope ++ [r.name])

/-- A place of a given type that may bear a name: a parameter or a field. -/
structure Slot (τ : Type) where
  name : Option String
  type : τ
  deriving Repr, DecidableEq

/-- The type of a function. A trailing `...` is either flagged or stands as the last parameter. -/
structure Prototype (τ : Type) where
  params : List (Slot τ)
  variadic : Bool := false
  result : τ
  deriving Repr, DecidableEq

inductive CType where
  | builtin (b : Builtin)
  | pointer (pointee : CType)
  | array (elem : CType) (length : Option Constant)
  | func (f : Prototype CType)
  | named (ref : NamedRef)
  /-- The `...` at the end of a parameter list. -/
  | variadic
  deriving Repr

namespace CType

def kindName : CType → String
  | builtin _ => "builtin"
  | pointer _ => "pointer"
  | array _ _ => "array"
  | func _ => "function"
  | named _ => "named reference"
  | variadic => "variadic"

mutual

/-- The type as diagnostics show it. -/
def spelling : CType → String
  | builtin b => b.spelling
  | pointer pointee => spelling pointee ++ "*"
  | array elem length =>
    spelling elem ++ "[" ++ (length.map Constant.spelling).getD "" ++ "]"
  | func ⟨params, isVariadic, result⟩ =>
    let shown := spellings params
    spelling result ++ "(" ++ Text.joined ", " (if isVariadic then shown ++ ["..."] else shown)
      ++ ")"
  | named ref =>
    match ref.tag with
    | some tag => tag.keyword ++ " " ++ ref.qualified
    | none => ref.qualified
  | variadic => "..."

def spellings : List (Slot CType) → List String
  | [] => []
  | ⟨_, type⟩ :: rest => spelling type :: spellings rest

end

end CType

end HeaderBindings
