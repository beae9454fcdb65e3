import HeaderBindings.Text.Case.Table

/-!
# Upper and lower case

The full case mappings of Unicode: the image of a character is a list, since the upper case of `ß`
is `SS`. The lower case of a whole text depends on context in one place, a capital sigma, which has
a form of its own at the end of a word.
-/

namespace HeaderBindings.Text

namespace Case

/-- The image of the code point `n` under a range, if the range holds `n`. -/
def MapRange.image? (r : MapRange) (n : Nat) : Option Nat :=
  if r.first ≤ n ∧ n ≤ r.last ∧ (n - r.first) % r.stride = 0 then some (r.target + (n - r.first))
  else none

/-- The image of a character under a case mapping; a character in no table is its own image. -/
def image (expansions : List (Nat × List Nat)) (ranges : List MapRange) (c : Char) : List Char :=
  match expansions.lookup c.toNat with
  | some targets => targets.map Char.ofNat
  | none =>
    match ranges.findSome? (·.image? c.toNat) with
    | some target => [Char.ofNat target]
    | none => [c]

def inRanges (ranges : List (Nat × Nat)) (c : Char) : Bool :=
  ranges.any fun r => r.1 ≤ c.toNat && c.toNat ≤ r.2

def isCased (c : Char) : Bool := inRanges casedRanges c

/-- Whether a character is passed over when the context of a sigma is examined. -/
def isIgnorable (c : Char) : Bool := inRanges caseIgnorableRanges c

/-- Whether the first character that is not passed over is a letter with case. -/
def meetsCased (cs : List Char) : Bool := (cs.dropWhile isIgnorable).head?.any isCased

end Case

def upper (c : Char) : List Char := Case.image Case.upperExpansions Case.upperRanges c

/-- The lower case of a character, without regard to its context. -/
def lower (c : Char) : List Char := Case.image Case.lowerExpansions Case.lowerRanges c

/-- The lower case of `cs`, which follows the characters of `before` (nearest first). -/
def lowerFrom (before : List Char) : List Char → List Char
  | [] => []
  | c :: cs =>
    let image :=
      if c = 'Σ' then
        -- at the end of a word, with a cased letter in front, it becomes a final sigma
        if Case.meetsCased before && !Case.meetsCased cs then ['ς'] else ['σ']
      else lower c
    image ++ lowerFrom (c :: before) cs

def lowerText (s : String) : String := String.ofList (lowerFrom [] s.toList)

def upperFirst : List Char → List Char
  | [] => []
  | c :: cs => upper c ++ cs

end HeaderBindings.Text
