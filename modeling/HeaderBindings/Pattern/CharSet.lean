/-!
# Sets of characters

A set of characters as the list of the maximal ranges of their code points in rising order, with the
operations that bracketed classes need.
-/

namespace HeaderBindings.Pattern

/-- A set of characters, as the maximal ranges of their code points in rising order. No range holds
a surrogate. -/
structure CharSet where
  ranges : List (Nat × Nat)
  deriving Repr, DecidableEq

namespace CharSet

def maxCodePoint : Nat := 0x10FFFF

/-- The code points that are no characters. -/
def surrogates : Nat × Nat := (0xD800, 0xDFFF)

def empty : CharSet := ⟨[]⟩

def all : CharSet := ⟨[(0, surrogates.1 - 1), (surrogates.2 + 1, maxCodePoint)]⟩

def range (lo hi : Char) : CharSet :=
  if lo.toNat < surrogates.1 ∧ surrogates.2 < hi.toNat then
    ⟨[(lo.toNat, surrogates.1 - 1), (surrogates.2 + 1, hi.toNat)]⟩
  else ⟨[(lo.toNat, hi.toNat)]⟩

def single (c : Char) : CharSet := range c c

def containsCode (s : CharSet) (n : Nat) : Bool := s.ranges.any fun r => r.1 ≤ n && n ≤ r.2

def contains (s : CharSet) (c : Char) : Bool := s.containsCode c.toNat

/-- Joins ranges that overlap or touch: `current`, and those after it in rising order of starts. -/
def mergeAfter (current : Nat × Nat) : List (Nat × Nat) → List (Nat × Nat)
  | [] => [current]
  | r :: rest =>
    if r.1 ≤ current.2 + 1 then mergeAfter (current.1, max current.2 r.2) rest
    else current :: mergeAfter r rest

/-- The set of the characters in any of the given ranges, which hold no surrogates. -/
def ofRanges (l : List (Nat × Nat)) : CharSet :=
  match l.mergeSort fun a b => a.1 ≤ b.1 with
  | [] => empty
  | r :: rest => ⟨mergeAfter r rest⟩

def union (s t : CharSet) : CharSet := ofRanges (s.ranges ++ t.ranges)

/-- The gaps between ranges in rising order, from `start` on. -/
def gaps (start : Nat) : List (Nat × Nat) → List (Nat × Nat)
  | [] => if start ≤ maxCodePoint then [(start, maxCodePoint)] else []
  | r :: rest =>
    if start < r.1 then (start, r.1 - 1) :: gaps (r.2 + 1) rest else gaps (r.2 + 1) rest

def compl (s : CharSet) : CharSet := ⟨gaps 0 (ofRanges (surrogates :: s.ranges)).ranges⟩

def inter (s t : CharSet) : CharSet := (s.compl.union t.compl).compl

def sdiff (s t : CharSet) : CharSet := s.inter t.compl

/-- The members of exactly one of the sets. -/
def symmDiff (s t : CharSet) : CharSet := (s.sdiff t).union (t.sdiff s)

def isAscii (s : CharSet) : Bool := s.ranges.all fun r => r.2 ≤ 0x7F

end CharSet

end HeaderBindings.Pattern
