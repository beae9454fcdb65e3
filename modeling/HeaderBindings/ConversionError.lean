import HeaderBindings.Header.Type

/-!
# Why a conversion fails

The causes for which a type, an enumeration or a symbol cannot be converted or found, with the texts
that report them.
-/

namespace HeaderBindings

/-- A cause of failure. -/
inductive ConversionError where
  /-- The catalog has no target type for a builtin scalar. -/
  | unresolvedBuiltin (b : Builtin)
  /-- A name is neither a known typedef nor registered. -/
  | unresolvedAlias (name : String)
  /-- The length of an array is no constant, or is negative. -/
  | unresolvedArrayLength (length : Constant)
  | arrayWithoutLength
  /-- A `...` stands in front of other parameters. -/
  | misplacedVariadic
  /-- A type is referred to that has no name. -/
  | anonymousReference
  /-- The value of an enumerator is no constant. -/
  | enumeratorValue (value : Constant) (name : String)
  | unknownSymbol (name : String)
  deriving Repr, DecidableEq

namespace ConversionError

/-- The text between grave accents. -/
def inAccents (s : String) : String := "\x60" ++ s ++ "\x60"

/-- What is not supported, for the causes of this kind. -/
def unsupported? : ConversionError → Option String
  | arrayWithoutLength => some "array without length"
  | misplacedVariadic => some "variadic parameter before the end of the list"
  | anonymousReference => some "anonymous type reference"
  | enumeratorValue value name =>
    some ("enumerator value " ++ inAccents value.spelling ++ " of " ++ inAccents name)
  | _ => none

def message (e : ConversionError) : String :=
  match e with
  | unresolvedBuiltin b => "builtin type " ++ inAccents b.spelling ++ " has no target mapping"
  | unresolvedAlias name => "type " ++ inAccents name ++ " not found"
  | unresolvedArrayLength length =>
    "can't determine the array length " ++ inAccents length.spelling
  | unknownSymbol name => "symbol " ++ inAccents name ++ " not found in the symbol table"
  | e => "unsupported type: " ++ e.unsupported?.getD ""

/-- The code under which failures of this kind are known. -/
def code : ConversionError → String
  | unresolvedBuiltin _ => "llbind::unresolved_builtin"
  | unresolvedAlias _ => "llbind::unresolved_alias"
  | unresolvedArrayLength _ => "llbind::unresolved_array_length"
  | unknownSymbol _ => "llbind::symbol_lookup"
  | _ => "llbind::unsupported"

/-- Advice on how to avoid the failure. -/
def help? : ConversionError → Option String
  | unresolvedAlias _ =>
    some "declare the type before its first use, or add a typedef the catalog knows"
  | _ => none

end ConversionError

/-- A declaration that was passed over because a conversion failed. -/
structure SkippedDecl where
  decl : String
  file : String
  cause : ConversionError
  deriving Repr, DecidableEq

namespace SkippedDecl

def message (d : SkippedDecl) : String :=
  "skipped " ++ ConversionError.inAccents d.decl ++ " in " ++ d.file

def code : String := "llbind::skipped_decl"

end SkippedDecl

end HeaderBindings
