import HeaderBindings.ConversionError
import HeaderBindings.Header.Declaration
import HeaderBindings.Text.Case

/-!
# Enumerations

The values of enumerators: one with an expression has its value, in which the names of earlier
enumerators may occur, and one without goes on from its predecessor, modulo 2^64.
-/

namespace HeaderBindings.Enumeration

/-- The values of earlier enumerators, latest first. -/
abbrev Earlier := List (String × Int64)

/-- The value of an enumerator; `next` is one above the value before it. -/
def value (earlier : Earlier) (next : Int64) (item : Enumerator) :
    Except ConversionError Int64 :=
  match item.value with
  | none => .ok next
  | some expr =>
    match expr.eval? (earlier.lookup ·) with
    | some n => .ok n
    | none => .error (.enumeratorValue expr item.name)

def valuesFrom (earlier : Earlier) (next : Int64) :
    List Enumerator → Except ConversionError (List Int64)
  | [] => .ok []
  | item :: rest => do
    let n ← value earlier next item
    let others ← valuesFrom ((item.name, n) :: earlier) (n + 1) rest
    return n :: others

def values (items : List Enumerator) : Except ConversionError (List Int64) :=
  valuesFrom [] 0 items

/-- What stands in front of the names of enumerators: `PieceType` gives `Piecetype`. -/
def constPrefix (name : String) : String :=
  String.ofList (Text.upperFirst (Text.lowerText name).toList)

end HeaderBindings.Enumeration
