/-!
# JSON values

A value of JSON as a tree. Members of an object are listed as they are written, repeated names
included, and numbers keep their spelling. A string that is written with half of a surrogate pair
denotes no text; whether that matters is up to whoever asks for the text.
-/

namespace HeaderBindings

/-- The text of a JSON string. It is absent if the string holds half of a surrogate pair. -/
abbrev JsonText := Option String

inductive Json where
  | null
  | bool (b : Bool)
  | number (spelling : String)
  | string (text : JsonText)
  | array (elems : List Json)
  | object (members : List (JsonText × Json))
  deriving Repr

namespace Json

def text (s : String) : Json := .string (some s)

def text? : Json → Option String
  | string t => t
  | _ => none

def bool? : Json → Option Bool
  | bool b => some b
  | _ => none

def elems? : Json → Option (List Json)
  | array elems => some elems
  | _ => none

/-- The last member of a given name of an object. -/
def member? (j : Json) (name : String) : Option Json :=
  match j with
  | object members => members.reverse.lookup (some name)
  | _ => none

mutual

/-- How deeply arrays and objects are nested. -/
def depth : Json → Nat
  | array elems => elemsDepth elems + 1
  | object members => membersDepth members + 1
  | _ => 0

def elemsDepth : List Json → Nat
  | [] => 0
  | elem :: rest => max (depth elem) (elemsDepth rest)

def membersDepth : List (JsonText × Json) → Nat
  | [] => 0
  | (_, value) :: rest => max (depth value) (membersDepth rest)

/-- Whether every string and every name denotes a text. -/
def hasTexts : Json → Bool
  | string t => t.isSome
  | array elems => elemsHaveTexts elems
  | object members => membersHaveTexts members
  | _ => true

def elemsHaveTexts : List Json → Bool
  | [] => true
  | elem :: rest => hasTexts elem && elemsHaveTexts rest

def membersHaveTexts : List (JsonText × Json) → Bool
  | [] => true
  | (name, value) :: rest => name.isSome && hasTexts value && membersHaveTexts rest

end

end Json

end HeaderBindings
