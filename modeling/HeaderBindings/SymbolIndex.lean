import HeaderBindings.ConversionError
import HeaderBindings.OrderedMap

/-!
# The index of exported symbols

Every exported function under the symbol by which it is linked. A symbol that is written again keeps
its place and gets the newer entry.
-/

namespace HeaderBindings

structure SymbolInfo where
  targetName : String
  /-- The name in the header, behind its namespaces and classes. -/
  qualifiedName : String
  deriving Repr, DecidableEq

abbrev SymbolIndex := OrderedMap String SymbolInfo

namespace SymbolIndex

def lookup (index : SymbolIndex) (symbol : String) : Except ConversionError SymbolInfo :=
  match index.get? symbol with
  | some info => .ok info
  | none => .error (.unknownSymbol symbol)

/-- A symbol without the character that some platforms put in front of all symbols. -/
def undecorate (decoration : Option Char) (symbol : String) : String :=
  match decoration, symbol.toList with
  | some d, c :: cs => if c = d then String.ofList cs else symbol
  | _, _ => symbol

end SymbolIndex

end HeaderBindings
