import HeaderBindings.Pattern.CharSet
import HeaderBindings.Text.Blank
import HeaderBindings.Text.Digit

/-!
# Sets given by runs

Tables of code points are written as the lengths of runs from code point 0 on. In a table of a
yes-or-no property runs outside and inside the set take turns. In a table of a property with several
values a run bears the label of its value; the length follows the label, and is left out when it
is 1.
-/

namespace HeaderBindings.Pattern

open HeaderBindings.Text (words isDigit)

def number (cs : List Char) : Nat := cs.foldl (fun n c => 10 * n + (c.toNat - '0'.toNat)) 0

namespace CharSet

/-- The set whose runs have the given lengths, the first run outside it. -/
def ofToggles (runs : String) : CharSet :=
  let step := fun (state : Nat × Bool × List (Nat × Nat)) (word : String) =>
    let (start, inside, ranges) := state
    let stop := start + number word.toList
    (stop, !inside, if inside then (start, stop - 1) :: ranges else ranges)
  .ofRanges ((words runs).foldl step (0, false, [])).2.2.reverse

/-- The set of the code points whose label fulfils a condition. -/
def ofLabels (runs : String) (p : String → Bool) : CharSet :=
  let step := fun (state : Nat × List (Nat × Nat)) (word : String) =>
    let (start, ranges) := state
    let label := word.toList.takeWhile fun c => !isDigit c
    let digits := word.toList.dropWhile fun c => !isDigit c
    let stop := start + if digits = [] then 1 else number digits
    (stop, if p (String.ofList label) then (start, stop - 1) :: ranges else ranges)
  .ofRanges ((words runs).foldl step (0, [])).2.reverse

end CharSet

/-- A property with several values: the names of the values, of which the first one labels the runs
of the value, and the runs. -/
structure ValueTable where
  names : List (List String)
  runs : String

def ValueTable.set? (t : ValueTable) (name : String) : Option CharSet := do
  let names ← t.names.find? (·.contains name)
  return .ofLabels t.runs (some · = names.head?)

end HeaderBindings.Pattern
