import HeaderBindings.Text.Cut
import HeaderBindings.Text.Case

/-!
# Upper camel case

`foo_bar` becomes `FooBar`: the text is cut at underscores, every segment gets a capital letter,
and the segments are joined. Only the first letter of a segment changes.
-/

namespace HeaderBindings.Text

/-- Upper camel case of a list of characters. -/
def camelCaseChars (cs : List Char) : List Char :=
  ((splitAtEvery (· = '_') cs).map upperFirst).flatten

def camelCase (s : String) : String := String.ofList (camelCaseChars s.toList)

end HeaderBindings.Text
