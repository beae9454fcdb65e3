import HeaderBindings.Conversion
import HeaderBindings.Naming.NameCounter
import HeaderBindings.Package
import HeaderBindings.SymbolIndex

/-!
# Sessions

The state of a run over the headers of a library. What a header declares is registered, named, bound
and reported in the order of declaration; the first declaration that claims a name keeps it.
-/

namespace HeaderBindings

/-- What shapes the names of a run. -/
structure SessionOptions where
  trimPrefixes : List String := []
  /-- The replacements of the prefixes, in the same order. -/
  replPrefixes : List String := []
  /-- Target names by symbol, which take the place of automatic names. -/
  overrides : OrderedMap String String := ∅
  /-- The character that the platform puts in front of symbols. -/
  decoration : Option Char := some '_'

structure Session where
  rules : PrefixRules
  overrides : OrderedMap String String
  decoration : Option Char
  types : Registry := ∅
  counter : NameCounter := {}
  symbols : SymbolIndex := ∅
  package : Package := {}
  skipped : List SkippedDecl := []
  /-- The target names of the types that are bound in the package. -/
  emitted : List String := []

namespace Session

/-- The state before the first header. -/
def start (options : SessionOptions) : Session where
  rules := .ofLists options.trimPrefixes options.replPrefixes
  overrides := options.overrides
  decoration := options.decoration
  -- no automatic name is equal to the target of an override
  counter := options.overrides.values.foldl NameCounter.reserve {}

def converter (s : Session) : Converter := ⟨s.rules, s.types⟩

end Session

end HeaderBindings
