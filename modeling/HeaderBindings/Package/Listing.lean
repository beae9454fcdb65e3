import HeaderBindings.Package
import HeaderBindings.Text.Blank

/-!
# Listings of bindings

A file of a package as text: a heading, then every binding on a line of its own below the lines of
its comment. Functions are followed by the symbol by which they are linked.
-/

namespace HeaderBindings

/-- The lines of a comment, without the blanks around them. -/
def docLines (doc : Option String) : List String :=
  match doc with
  | some doc => (Text.lines doc).map Text.trim
  | none => []

def Binding.listing : Binding → List String
  | type b => docLines b.doc ++ ["type " ++ b.name ++ " " ++ b.underlying.render]
  | const b => ["const " ++ b.name ++ " " ++ b.type.render ++ " = " ++ b.value.toInt.repr]
  | function b =>
    let signature := b.signature.render
    let signature := (Text.afterStart? "func" signature).getD signature
    docLines b.doc ++ ["func " ++ b.name.render ++ signature ++ " // " ++ b.linkName]

def PackageFile.listing (f : PackageFile) : String :=
  let lines := ("// " ++ f.outputName ++ " (" ++ f.header ++ ")") :: f.bindings.flatMap (·.listing)
  lines.foldl (fun text line => text ++ line ++ "\n") ""

end HeaderBindings
