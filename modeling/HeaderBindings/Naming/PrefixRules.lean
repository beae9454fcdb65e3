import HeaderBindings.Pattern
import HeaderBindings.Text.CamelCase

/-!
# Prefix rules

Libraries put a prefix in front of their names. The rules list prefixes as patterns, each with a
replacement; the first rule that matches a name rewrites it, and a name that no rule matches stays
as it is.
-/

namespace HeaderBindings

/-- A prefix to look for. -/
inductive Prefix where
  /-- A pattern, all of whose matches are rewritten. -/
  | pattern (p : Pattern)
  /-- A text that is no pattern. It applies to names that start with it. -/
  | literal (text : String)

namespace Prefix

def ofString (text : String) : Prefix :=
  match Pattern.ofString? text with
  | some p => .pattern p
  | none => .literal text

/-- The rewritten name, if the prefix applies to it. -/
def rewrite? (p : Prefix) (name replacement : String) : Option String :=
  match p with
  | pattern p => if p.isMatch name then some (p.replaceAll name replacement) else none
  | literal text =>
    if text.toList.isPrefixOf name.toList then some (Text.substitute name text replacement)
    else none

end Prefix

/-- Prefixes with their replacements, in the order in which they are tried. -/
structure PrefixRules where
  rules : List (Prefix × String)

namespace PrefixRules

/-- The rules of parallel lists. A prefix without a replacement is replaced by nothing. -/
def ofLists : List String → List String → PrefixRules
  | prefixes, replacements =>
    ⟨prefixes.mapIdx fun i p => (Prefix.ofString p, replacements[i]?.getD "")⟩

def isEmpty (r : PrefixRules) : Bool := r.rules.isEmpty

/-- The name rewritten by the first rule that applies to it, with the replacement that `pick` makes
of the rule's own. -/
def rewriteFirst (r : PrefixRules) (pick : String → String) (name : String) : String :=
  (r.rules.findSome? fun rule => rule.1.rewrite? name (pick rule.2)).getD name

def trim (r : PrefixRules) (name : String) : String := r.rewriteFirst (fun _ => "") name

def replace (r : PrefixRules) (name : String) : String := r.rewriteFirst id name

/-- The target name of a function: its prefix replaced, in upper camel case. -/
def functionName (r : PrefixRules) (name : String) : String := Text.camelCase (r.replace name)

/-- The target name of a type: its prefix removed, in upper camel case. -/
def typeName (r : PrefixRules) (name : String) : String := Text.camelCase (r.trim name)

end PrefixRules

end HeaderBindings
