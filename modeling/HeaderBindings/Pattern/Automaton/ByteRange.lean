import HeaderBindings.Pattern.CharSet

/-!
# Sets of characters as ranges of bytes

In UTF-8 a range of characters is a list of sequences of byte ranges: a text is one character of the
range if for one of the sequences its bytes lie in the ranges, one by one. Such a sequence stands
for all characters between two of the same length in bytes, if in the first place where their bytes
differ every later byte runs over all its values.
-/

namespace HeaderBindings.Pattern

abbrev ByteRange := Nat × Nat

namespace ByteRange

/-- Cuts a range of code points in front of `n`, if `n` lies inside. -/
def cutBefore (n : Nat) (r : Nat × Nat) : List (Nat × Nat) :=
  if r.1 < n ∧ n ≤ r.2 then [(r.1, n - 1), (n, r.2)] else [r]

/-- Cuts a range of code points so that a part either lies in one block of the given size or
consists of whole blocks. -/
def cutIntoBlocks (size : Nat) (r : Nat × Nat) : List (Nat × Nat) :=
  let first := r.1 / size
  let last := r.2 / size
  if first = last then [r]
  else
    let start := if r.1 % size = 0 then first else first + 1
    let stop := if r.2 % size = size - 1 then last + 1 else last
    let front := if start = first then [] else [(r.1, start * size - 1)]
    let whole := if start < stop then [(start * size, stop * size - 1)] else []
    let back := if stop = last then [(last * size, r.2)] else []
    front ++ whole ++ back

/-- The first code points with two, three and four bytes. -/
def lengthBounds : List Nat := [0x80, 0x800, 0x10000]

/-- The numbers of code points that have all bytes in common but the last, the last two, or the last
three. -/
def blockSizes : List Nat := [0x40, 0x1000, 0x40000]

def bytesOf (n : Nat) : List Nat := (String.utf8EncodeChar (Char.ofNat n)).map UInt8.toNat

/-- The byte ranges of a range of characters with the same number of bytes. -/
def ofUniform (r : Nat × Nat) : List (List ByteRange) :=
  let parts := if r.2 < 0x80 then [r]
    else blockSizes.foldl (fun parts size => parts.flatMap (cutIntoBlocks size)) [r]
  parts.map fun r => (bytesOf r.1).zip (bytesOf r.2)

end ByteRange

/-- The sequences of byte ranges of a set, in rising order. -/
def CharSet.byteRanges (s : CharSet) : List (List ByteRange) :=
  let uniform :=
    ByteRange.lengthBounds.foldl (fun parts n => parts.flatMap (ByteRange.cutBefore n)) s.ranges
  uniform.flatMap ByteRange.ofUniform

end HeaderBindings.Pattern
