import HeaderBindings.Path
import HeaderBindings.Target.Type

/-!
# What is known without a declaration

The target types of the builtin scalars, and the typedefs of fixed width that need no declaration,
each with the header that declares it below the include directory.
-/

namespace HeaderBindings

namespace Catalog

/-- The builtin scalars that have a target type. -/
def builtins : List (Builtin × TargetType) :=
  [(⟨.void, {}⟩, .void),
   (⟨.bool, {}⟩, .scalar .bool),
   -- the sign of a character is dropped
   (⟨.char, {}⟩, .scalar .char),
   (⟨.char, { signed := true }⟩, .scalar .char),
   (⟨.char, { unsigned := true }⟩, .scalar .char),
   (⟨.wchar, {}⟩, .scalar .int16),
   (⟨.char16, {}⟩, .scalar .int16),
   (⟨.char32, {}⟩, .scalar .int32),
   (⟨.int, { short := true }⟩, .scalar .int16),
   (⟨.int, { short := true, unsigned := true }⟩, .scalar .uint16),
   (⟨.int, {}⟩, .scalar .int),
   (⟨.int, { unsigned := true }⟩, .scalar .uint),
   (⟨.int, { long := true }⟩, .scalar .long),
   (⟨.int, { long := true, unsigned := true }⟩, .scalar .ulong),
   (⟨.int, { longLong := true }⟩, .scalar .longLong),
   (⟨.int, { longLong := true, unsigned := true }⟩, .scalar .ulongLong),
   (⟨.float, {}⟩, .scalar .float),
   (⟨.float, { double := true }⟩, .scalar .double),
   -- `long double` loses precision
   (⟨.float, { double := true, long := true }⟩, .scalar .double),
   (⟨.complex, {}⟩, .scalar .complex64),
   (⟨.complex, { double := true }⟩, .scalar .complex128)]

def builtin? (b : Builtin) : Option TargetType := builtins.lookup b

/-- The target type of a builtin scalar is a scalar, unless it is that of `void`. -/
theorem eq_void_or_scalar_of_builtin? {b : Builtin} {type : TargetType}
    (h : builtin? b = some type) : type = .void ∨ ∃ s, type = .scalar s := by
  have hall : ∀ e ∈ builtins, e.2 = .void ∨ ∃ s, e.2 = .scalar s := by simp [builtins]
  obtain ⟨front, back, hmem, -⟩ := List.lookup_eq_some_iff.1 h
  exact hall (b, type) (hmem ▸ by simp)

/-- A typedef that is known without its declaration. -/
structure KnownTypedef where
  name : String
  scalar : Scalar
  /-- The declaring header, below the include directory. -/
  header : String
  deriving Repr, DecidableEq

def KnownTypedef.type (t : KnownTypedef) : TargetType := .scalar t.scalar

def typedefs : List KnownTypedef :=
  [⟨"int8_t", .char, "sys/_types/_int8_t.h"⟩,
   ⟨"uint8_t", .char, "_types/_uint8_t.h"⟩,
   ⟨"u_int8_t", .char, "sys/_types/_u_int8_t.h"⟩,
   ⟨"int16_t", .int16, "sys/_types/_int16_t.h"⟩,
   ⟨"uint16_t", .uint16, "_types/_uint16_t.h"⟩,
   ⟨"u_int16_t", .uint16, "sys/_types/_u_int16_t.h"⟩,
   ⟨"int32_t", .int, "sys/_types/_int32_t.h"⟩,
   ⟨"uint32_t", .uint, "_types/_uint32_t.h"⟩,
   ⟨"u_int32_t", .uint, "sys/_types/_u_int32_t.h"⟩,
   ⟨"int64_t", .longLong, "sys/_types/_int64_t.h"⟩,
   ⟨"uint64_t", .ulongLong, "_types/_uint64_t.h"⟩,
   ⟨"u_int64_t", .ulongLong, "sys/_types/_u_int64_t.h"⟩]

def typedef? (name : String) : Option KnownTypedef := typedefs.find? (·.name = name)

def enumType : TargetType := .scalar .int

/-- Whether a header only declares known typedefs. Headers are compared below their include
directory, wherever that is. -/
def isKnownHeader (path : String) : Bool :=
  typedefs.any (·.header = Path.belowInclude path)

end Catalog

end HeaderBindings
