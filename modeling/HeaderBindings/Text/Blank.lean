import HeaderBindings.Text.Cut

/-!
# Blanks, words and lines

A *blank* is a character with the Unicode property White_Space: 25 characters, of which ASCII holds
six. Texts are trimmed at blanks and cut into words at runs of blanks, and lines end at a line feed.
-/

namespace HeaderBindings.Text

/-- The ranges of code points with the property White_Space. -/
def blankRanges : List (Nat × Nat) :=
  [(0x09, 0x0D), (0x20, 0x20), (0x85, 0x85), (0xA0, 0xA0), (0x1680, 0x1680), (0x2000, 0x200A),
   (0x2028, 0x2029), (0x202F, 0x202F), (0x205F, 0x205F), (0x3000, 0x3000)]

def isBlank (c : Char) : Bool :=
  blankRanges.any fun r => r.1 ≤ c.toNat && c.toNat ≤ r.2

/-- The characters from the first non-blank to the last one. -/
def trimChars (cs : List Char) : List Char :=
  ((cs.dropWhile isBlank).reverse.dropWhile isBlank).reverse

def trim (s : String) : String := String.ofList (trimChars s.toList)

/-- The maximal runs of non-blank characters. -/
def wordsChars (cs : List Char) : List (List Char) :=
  (splitAtEvery isBlank cs).filter (· ≠ [])

def words (s : String) : List String := (wordsChars s.toList).map String.ofList

/-- The lines of a text. A line feed ends a line, so none follows the last one. -/
def lines (s : String) : List String :=
  let pieces := splitAtEvery (· = '\n') s.toList
  let pieces := if pieces.getLast? = some [] then pieces.dropLast else pieces
  pieces.map String.ofList

theorem mem_wordsChars {cs w : List Char} (h : w ∈ wordsChars cs) :
    w ≠ [] ∧ ∀ c ∈ w, isBlank c = false := by
  simp only [wordsChars, List.mem_filter, decide_eq_true_eq, ne_eq] at h
  exact ⟨h.2, not_of_mem_splitAtEvery h.1⟩

end HeaderBindings.Text
