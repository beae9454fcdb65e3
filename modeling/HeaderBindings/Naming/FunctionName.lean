import HeaderBindings.Text.Cut

/-!
# Names of functions

The target name of a function is a bare name, or that of a method, with its receiver:
`(*Foo).Bar`.
-/

namespace HeaderBindings

structure FunctionName where
  receiver : Option String
  name : String
  deriving Repr, DecidableEq

namespace FunctionName

def render (f : FunctionName) : String :=
  match f.receiver with
  | some receiver => "(*" ++ receiver ++ ")." ++ f.name
  | none => f.name

/-- Reads `(*Receiver).Name`, `(Receiver).Name` or a bare name. -/
def ofString (full : String) : FunctionName :=
  match full.toList with
  | '(' :: rest =>
    match Text.cutAt? [')', '.'] rest with
    | some (receiver, name) =>
      ⟨some (String.ofList (receiver.dropWhile (· = '*'))), String.ofList name⟩
    | none => ⟨none, full⟩
  | _ => ⟨none, full⟩

end FunctionName

end HeaderBindings
