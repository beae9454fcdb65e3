import HeaderBindings.Pattern.CharSet

/-!
# Patterns as trees

A pattern matches by prefix preference: of two alternatives the first one is tried first, and a
repetition takes as many rounds as it can unless it is lazy. The functions that compose patterns
keep them in a normal form: neighbouring characters stand in one literal, sequences and choices are
flat, and a choice between characters is a set.
-/

namespace HeaderBindings.Pattern

/-- A condition on a position between two characters. Those about words carry the set of the
characters that words consist of. -/
inductive Assertion where
  | textStart
  | textEnd
  /-- At the start of a line; with `crlf`, a carriage return ends lines too. -/
  | lineStart (crlf : Bool)
  | lineEnd (crlf : Bool)
  | wordBoundary (word : CharSet)
  | notWordBoundary (word : CharSet)
  | wordStart (word : CharSet)
  | wordEnd (word : CharSet)
  /-- No character of a word before the position. -/
  | wordStartHalf (word : CharSet)
  /-- No character of a word after the position. -/
  | wordEndHalf (word : CharSet)
  deriving Repr, DecidableEq

inductive Node where
  | empty
  | literal (cs : List Char)
  /-- One character out of a set; no text matches if the set is empty. -/
  | chars (s : CharSet)
  | assertion (a : Assertion)
  /-- A group whose match is kept under a number. -/
  | group (index : Nat) (inner : Node)
  | sequence (parts : List Node)
  | choice (branches : List Node)
  /-- `inner` in at least `least` and, if there is a bound, at most `most` rounds. -/
  | repeated (inner : Node) (least : Nat) (most : Option Nat) (greedy : Bool)
  deriving Repr

namespace Node

mutual

/-- Whether two patterns are the same. -/
def same : Node → Node → Bool
  | empty, empty => true
  | literal cs, literal ds => cs = ds
  | chars s, chars t => s = t
  | assertion a, assertion b => a = b
  | group i a, group j b => i = j && same a b
  | sequence as, sequence bs => sameAll as bs
  | choice as, choice bs => sameAll as bs
  | repeated a least most greedy, repeated b least' most' greedy' =>
    least = least' && most = most' && greedy = greedy' && same a b
  | _, _ => false

def sameAll : List Node → List Node → Bool
  | [], [] => true
  | a :: as, b :: bs => same a b && sameAll as bs
  | _, _ => false

end

/-! ### The lengths of matches -/

/-- Some lengths, if each of them is known. -/
def known? : List (Option Nat) → Option (List Nat)
  | [] => some []
  | length :: rest => do return (← length) :: (← known? rest)

mutual

/-- The number of bytes that every match has at least; there is none for a set without members, and
for what contains one. -/
def shortest : Node → Option Nat
  | empty => some 0
  | literal cs => some (cs.map Char.utf8Size).sum
  | chars s => s.ranges.head?.map fun r => (Char.ofNat r.1).utf8Size
  | assertion _ => some 0
  | group _ inner => inner.shortest
  | sequence parts => (known? (shortests parts)).map List.sum
  | choice branches => (known? (shortests branches)).bind List.min?
  | repeated inner least _ _ => inner.shortest.map (least * ·)

def shortests : List Node → List (Option Nat)
  | [] => []
  | n :: rest => n.shortest :: shortests rest

end

mutual

/-- The number of bytes that no match exceeds, if there is one. -/
def longest : Node → Option Nat
  | empty => some 0
  | literal cs => some (cs.map Char.utf8Size).sum
  | chars s => s.ranges.getLast?.map fun r => (Char.ofNat r.2).utf8Size
  | assertion _ => some 0
  | group _ inner => inner.longest
  | sequence parts => (known? (longests parts)).map List.sum
  | choice branches => (known? (longests branches)).bind List.max?
  | repeated inner _ most _ => do return (← most) * (← inner.longest)

def longests : List Node → List (Option Nat)
  | [] => []
  | n :: rest => n.longest :: longests rest

end

/-- Whether a pattern is known to match nothing but the empty text. -/
def isHollow (n : Node) : Bool := n.longest = some 0

/-- Whether every match is known to be longer than the empty text. -/
def isSolid (n : Node) : Bool := n.shortest.any (0 < ·)

/-! ### Composition -/

def ofSet (s : CharSet) : Node :=
  match s.ranges with
  | [(lo, hi)] => if lo = hi then literal [Char.ofNat lo] else chars s
  | _ => chars s

/-- The parts of a pattern as a sequence. -/
def parts : Node → List Node
  | empty => []
  | sequence parts => parts
  | n => [n]

def prepend : Node → List Node → List Node
  | literal cs, literal ds :: rest => literal (cs ++ ds) :: rest
  | n, rest => n :: rest

def inSequence (l : List Node) : Node :=
  match (l.flatMap parts).foldr prepend [] with
  | [] => empty
  | [n] => n
  | parts => sequence parts

/-- The branches of a pattern as a choice. -/
def branches : Node → List Node
  | choice branches => branches
  | n => [n]

def char? : Node → Option Char
  | literal [c] => some c
  | _ => none

def set? : Node → Option CharSet
  | chars s => some s
  | _ => none

def sequence? : Node → Option (List Node)
  | sequence parts => some parts
  | _ => none

/-- What two lists of patterns start with in common. -/
def commonStart : List Node → List Node → List Node
  | a :: as, b :: bs => if same a b then a :: commonStart as bs else []
  | _, _ => []

def commonStartOf : List (List Node) → List Node
  | [] => []
  | first :: rest => rest.foldl commonStart first

mutual

def size : Node → Nat
  | group _ inner => inner.size + 1
  | sequence parts => sizeOfAll parts + 1
  | choice branches => sizeOfAll branches + 1
  | repeated inner _ _ _ => inner.size + 1
  | _ => 1

def sizeOfAll : List Node → Nat
  | [] => 0
  | n :: rest => n.size + sizeOfAll rest

end

/-- A choice between patterns. The fuel bounds how often a common start is split off. -/
def oneOfWith : (fuel : Nat) → List Node → Node
  | 0, l => choice l
  | fuel + 1, l =>
    match l.flatMap branches with
    | [n] => n
    | l =>
      match l.mapM char?, l.mapM set?, l.mapM sequence? with
      | some cs, _, _ => ofSet (.ofRanges (cs.map fun c => (c.toNat, c.toNat)))
      | none, some sets, _ => ofSet (sets.foldl CharSet.union .empty)
      | none, none, some sequences =>
        -- what all of them start with is moved in front of the choice
        let start := commonStartOf sequences
        if start.isEmpty then choice l
        else
          let ends := sequences.map fun parts => inSequence (parts.drop start.length)
          inSequence (start ++ [oneOfWith fuel ends])
      | none, none, none => choice l

/-- A choice between patterns, of which the first one is preferred. -/
def oneOf (l : List Node) : Node := oneOfWith (sizeOfAll l + 1) l

/-- A pattern in at least `least` and, if there is a bound, at most `most` rounds. -/
def inRounds (n : Node) (least : Nat) (most : Option Nat) (greedy : Bool) : Node :=
  -- one round is as good as many for a pattern that matches only the empty text
  let least := if n.isHollow then min least 1 else least
  let most := if n.isHollow then some (min (most.getD 1) 1) else most
  if most = some 0 then empty
  else if least = 1 ∧ most = some 1 then n
  else repeated n least most greedy

/-! ### Patterns that are tied to an end of the text -/

mutual

/-- Whether every match is known to start at the start of the text. -/
def startsText : Node → Bool
  | assertion .textStart => true
  | group _ inner => inner.startsText
  | sequence parts => sequenceStartsText parts
  | choice branches => allStartText branches
  | repeated inner least _ _ => 0 < least && inner.startsText
  | _ => false

def sequenceStartsText : List Node → Bool
  | [] => false
  | n :: rest => n.startsText || (n.isHollow && sequenceStartsText rest)

def allStartText : List Node → Bool
  | [] => true
  | n :: rest => n.startsText && allStartText rest

end

mutual

/-- Whether every match is known to end at the end of the text. -/
def endsText : Node → Bool
  | assertion .textEnd => true
  | group _ inner => inner.endsText
  | sequence parts => sequenceEndsText parts
  | choice branches => allEndText branches
  | repeated inner least _ _ => 0 < least && inner.endsText
  | _ => false

def sequenceEndsText : List Node → Bool
  | [] => false
  | n :: rest => sequenceEndsText rest || (rest.all isHollow && n.endsText)

def allEndText : List Node → Bool
  | [] => true
  | n :: rest => n.endsText && allEndText rest

end

end Node

end HeaderBindings.Pattern
