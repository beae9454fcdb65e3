import HeaderBindings.Json.Basic
import HeaderBindings.Text.Cut

/-!
# Writing JSON

Values are written over several lines, with two blanks for every level of nesting. In strings only
quotes, backslashes and control characters are escaped.
-/

namespace HeaderBindings.Json

def hexDigit (n : Nat) : Char :=
  if n < 10 then Char.ofNat ('0'.toNat + n) else Char.ofNat ('a'.toNat + (n - 10))

def writeChar (c : Char) : List Char :=
  if c = '"' then ['\\', '"']
  else if c = '\\' then ['\\', '\\']
  else if c = '\x08' then ['\\', 'b']
  else if c = '\t' then ['\\', 't']
  else if c = '\n' then ['\\', 'n']
  else if c = '\x0C' then ['\\', 'f']
  else if c = '\r' then ['\\', 'r']
  else if c.toNat < 0x20 then
    ['\\', 'u', '0', '0', hexDigit (c.toNat / 16), hexDigit (c.toNat % 16)]
  else [c]

def writeText (s : String) : String :=
  String.ofList ('"' :: s.toList.flatMap writeChar ++ ['"'])

/-- A line break and the blanks of a level of nesting. -/
def lineBreak (level : Nat) : String := String.ofList ('\n' :: List.replicate (2 * level) ' ')

/-- Items of an array or object between its brackets, each on a line of its own. -/
def writeItems (level : Nat) (opening closing : String) (items : List String) : String :=
  match items with
  | [] => opening ++ closing
  | items =>
    opening ++ lineBreak (level + 1) ++ Text.joined ("," ++ lineBreak (level + 1)) items
      ++ lineBreak level ++ closing

mutual

/-- The text of a value at a level of nesting. -/
def writeAt (level : Nat) : Json → String
  | null => "null"
  | bool b => if b then "true" else "false"
  | number spelling => spelling
  | string t => writeText (t.getD "")
  | array elems => writeItems level "[" "]" (writeElems (level + 1) elems)
  | object members => writeItems level "\x7b" "\x7d" (writeMembers (level + 1) members)

def writeElems (level : Nat) : List Json → List String
  | [] => []
  | elem :: rest => writeAt level elem :: writeElems level rest

def writeMembers (level : Nat) : List (JsonText × Json) → List String
  | [] => []
  | (name, value) :: rest =>
    (writeText (name.getD "") ++ ": " ++ writeAt level value) :: writeMembers level rest

end

def write (j : Json) : String := writeAt 0 j

end HeaderBindings.Json
