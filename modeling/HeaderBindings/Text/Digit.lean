/-!
# Digits

The values of letters and digits as digits, and the numbers that they spell.
-/

namespace HeaderBindings.Text

def isDigit (c : Char) : Bool := '0' ≤ c && c ≤ '9'

def isLetter (c : Char) : Bool := ('a' ≤ c && c ≤ 'z') || ('A' ≤ c && c ≤ 'Z')

/-- The value of an ASCII digit or letter as a digit: letters of either case go on after nine. -/
def digitValue? (c : Char) : Option Nat :=
  if isDigit c then some (c.toNat - '0'.toNat)
  else if 'a' ≤ c ∧ c ≤ 'z' then some (c.toNat - 'a'.toNat + 10)
  else if 'A' ≤ c ∧ c ≤ 'Z' then some (c.toNat - 'A'.toNat + 10)
  else none

def digitIn? (radix : Nat) (c : Char) : Option Nat := (digitValue? c).filter (· < radix)

/-- The number that digits of the given radix spell after those that make up `acc`. -/
def numberFrom? (radix acc : Nat) : List Char → Option Nat
  | [] => some acc
  | c :: cs => do
    let d ← digitIn? radix c
    numberFrom? radix (acc * radix + d) cs

/-- The number that one or more digits of the given radix spell. -/
def number? (radix : Nat) : List Char → Option Nat
  | [] => none
  | cs => numberFrom? radix 0 cs

end HeaderBindings.Text
