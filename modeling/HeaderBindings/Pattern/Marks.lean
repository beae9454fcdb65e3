/-!
# Marks

A set of natural numbers below a bound that fits into few words of memory, one bit for each number.
A number at or above the bound may find no word for its bit; it is not inserted then.
-/

namespace HeaderBindings.Pattern

/-- A set of natural numbers, as the bits of words of a fixed size. -/
structure Marks where
  words : Array Nat

namespace Marks

def wordSize : Nat := 32

/-- The empty set, with room for the numbers below `bound`. -/
def empty (bound : Nat) : Marks := ⟨Array.replicate (bound / wordSize + 1) 0⟩

def contains (m : Marks) (n : Nat) : Bool := (m.words.getD (n / wordSize) 0).testBit (n % wordSize)

/-- Adds a number, if there is room for it. -/
def insert (m : Marks) (n : Nat) : Marks :=
  ⟨m.words.modify (n / wordSize) (· ||| 1 <<< (n % wordSize))⟩

end Marks

end HeaderBindings.Pattern
