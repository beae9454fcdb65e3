import HeaderBindings.Text.Digit

/-!
# 64-bit words

Numbers that have to fit into 64 bits, with or without a sign.
-/

namespace HeaderBindings.Text

/-- The number of 64-bit words: 2^64. -/
def wordCount : Nat := 0x10000000000000000

/-- The least natural number above the signed 64-bit range: 2^63. -/
def signBound : Nat := 0x8000000000000000

/-- The signed 64-bit word with a given magnitude, if it fits. -/
def signed? (isNegative : Bool) (magnitude : Nat) : Option Int64 :=
  if isNegative then
    if magnitude ≤ signBound then some (Int64.ofInt (-magnitude)) else none
  else if magnitude < signBound then some (Int64.ofNat magnitude)
  else none

def int64? (s : String) : Option Int64 :=
  match s.toList with
  | '-' :: digits => (number? 10 digits).bind (signed? true)
  | digits => (number? 10 digits).bind (signed? false)

end HeaderBindings.Text
