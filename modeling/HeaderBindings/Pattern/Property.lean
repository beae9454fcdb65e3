import HeaderBindings.Pattern.CharSet
import HeaderBindings.Pattern.Property.Age
import HeaderBindings.Pattern.Property.Binary
import HeaderBindings.Pattern.Property.Break
import HeaderBindings.Pattern.Property.Category
import HeaderBindings.Pattern.Property.Script
import HeaderBindings.Text.Cut

/-!
# Looking up character properties

The names inside `\p{…}` are compared loosely: case, blanks, underscores and hyphens do not count,
and neither does a leading `is`. A bare name is a binary property, a general category or a script,
in this order; a name with a value says which of them is meant.
-/

namespace HeaderBindings.Pattern.Property

open HeaderBindings.Text (splitAtEvery)

def looseChars (cs : List Char) : List Char :=
  cs.filterMap fun c =>
    if c = ' ' || c = '_' || c = '-' || 0x7F < c.toNat then none
    else if 'A' ≤ c && c ≤ 'Z' then some (Char.ofNat (c.toNat + 32))
    else some c

/-- The name in the form in which names are compared. -/
def looseName (s : String) : String :=
  match s.toList with
  | a :: b :: rest =>
    if (a = 'i' || a = 'I') && (b = 's' || b = 'S') then
      let name := looseChars rest
      if name = ['c'] then "isc" else String.ofList name
    else String.ofList (looseChars (a :: b :: rest))
  | cs => String.ofList (looseChars cs)

def binary? (name : String) : Option CharSet :=
  (binaryProperties.find? fun p => p.1.contains name).map fun p => .ofToggles p.2

/-- The general category, or the union of some, of a loose name. -/
def category? (name : String) : Option CharSet :=
  match name with
  | "any" => some .all
  | "assigned" => (categories.set? "cn").map CharSet.compl
  | "ascii" => some ⟨[(0, 0x7F)]⟩
  | name =>
    match categoryUnions.find? fun g => g.1.contains name with
    | some (_, members) => some (.ofLabels categories.runs members.contains)
    | none => categories.set? name

/-- The characters that are used with the script of a loose name. -/
def scriptExtension? (name : String) : Option CharSet := do
  let names ← scripts.names.find? (·.contains name)
  let own ← scripts.set? name
  let listed := CharSet.ofLabels scriptExtensionRuns (· ≠ "")
  let isUsed := fun label : String =>
    (splitAtEvery (· = '+') label.toList).any fun script =>
      some (String.ofList script) = names.head?
  -- where a list of scripts is given, it decides and not the script of the character
  return (own.sdiff listed).union (.ofLabels scriptExtensionRuns isUsed)

/-- The characters that the version of a name, or an older one, introduced. -/
def age? (name : String) : Option CharSet := do
  let newer := ages.reverse.dropWhile fun a => !a.2.contains name
  if newer = [] then none else return .ofLabels ageRuns (newer.map Prod.fst).contains

/-- The set that a bare name denotes. -/
def ofName? (name : String) : Option CharSet :=
  let name := looseName name
  ((binary? name).or (category? name)).or (scripts.set? name)

/-- The set of the characters whose property of the given name has the given value. -/
def ofNameAndValue? (name value : String) : Option CharSet :=
  let value := looseName value
  match looseName name with
  | "generalcategory" | "gc" => category? value
  | "script" | "sc" => scripts.set? value
  | "scriptextensions" | "scx" => scriptExtension? value
  | "age" => age? value
  | "graphemeclusterbreak" | "gcb" => graphemeBreaks.set? value
  | "wordbreak" | "wb" => wordBreaks.set? value
  | "sentencebreak" | "sb" => sentenceBreaks.set? value
  | _ => none

/-! ### The classes with letters of their own -/

/-- Decimal digits: `\d`. -/
def digit : CharSet := .ofLabels categories.runs (· = "nd")

/-- White space: `\s`. -/
def blank : CharSet := .ofToggles whiteSpace

/-- The characters of words: `\w`. -/
def word : CharSet :=
  ((CharSet.ofLabels categories.runs ["mn", "mc", "me", "nd", "pc"].contains).union
    (.ofToggles alphabetic)).union (.ofToggles joinControl)

def asciiDigit : CharSet := ⟨[(0x30, 0x39)]⟩

def asciiBlank : CharSet := ⟨[(0x09, 0x0D), (0x20, 0x20)]⟩

def asciiWord : CharSet := ⟨[(0x30, 0x39), (0x41, 0x5A), (0x5F, 0x5F), (0x61, 0x7A)]⟩

/-- The sets that are named inside `[:…:]`. -/
def asciiClasses : List (String × CharSet) :=
  [("alnum", ⟨[(0x30, 0x39), (0x41, 0x5A), (0x61, 0x7A)]⟩),
   ("alpha", ⟨[(0x41, 0x5A), (0x61, 0x7A)]⟩), ("ascii", ⟨[(0x00, 0x7F)]⟩),
   ("blank", ⟨[(0x09, 0x09), (0x20, 0x20)]⟩), ("cntrl", ⟨[(0x00, 0x1F), (0x7F, 0x7F)]⟩),
   ("digit", asciiDigit), ("graph", ⟨[(0x21, 0x7E)]⟩), ("lower", ⟨[(0x61, 0x7A)]⟩),
   ("print", ⟨[(0x20, 0x7E)]⟩),
   ("punct", ⟨[(0x21, 0x2F), (0x3A, 0x40), (0x5B, 0x60), (0x7B, 0x7E)]⟩),
   ("space", asciiBlank), ("upper", ⟨[(0x41, 0x5A)]⟩), ("word", asciiWord),
   ("xdigit", ⟨[(0x30, 0x39), (0x41, 0x46), (0x61, 0x66)]⟩)]

end HeaderBindings.Pattern.Property
