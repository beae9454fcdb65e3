/-!
# Counting an automaton

A pattern is matched by an automaton over bytes, and one that takes more room than is allowed is
refused. For that the automaton need not be built: it is enough to count its states in the order in
which they would be made, and what each of them takes.
-/

namespace HeaderBindings.Pattern

/-- What has been counted: the states made so far, and the bytes that they take besides their fixed
size. A state is numbered by those made before it. -/
structure Tally where
  states : Nat := 0
  bytes : Nat := 0
  deriving Repr, DecidableEq

namespace Tally

def stateSize : Nat := 32

/-- The number of bytes of an arc of a state that has any number of them. -/
def arcSize : Nat := 8

def targetSize : Nat := 4

/-- The number of bytes that an automaton may take: 10 · 2^20. -/
def maxSize : Nat := 10485760

def size (t : Tally) : Nat := stateSize * t.states + t.bytes

/-- Counts some states and the bytes that they take besides, unless that exceeds what is allowed. -/
def add (t : Tally) (states bytes : Nat) : Option Tally :=
  let t := ⟨t.states + states, t.bytes + bytes⟩
  if t.size ≤ maxSize then some t else none

def plain (t : Tally) (states : Nat) : Option Tally := t.add states 0

def branching (t : Tally) (arcs : Nat) : Option Tally := t.add 1 (arcSize * arcs)

def targets (t : Tally) (count : Nat) : Option Tally := t.add 0 (targetSize * count)

end Tally

end HeaderBindings.Pattern
