import HeaderBindings.Pattern.Automaton.Tally
import HeaderBindings.Text.Cut

/-!
# The states of a choice between literals

Literals that stand for choice share what they start with: they form a tree by their bytes. Where a
literal ends inside of the tree, the literals after it start anew, since those before it are
preferred to it and those after it are not.
-/

namespace HeaderBindings.Pattern

open HeaderBindings.Text (splitAtEvery)

/-- The words that start with each of the bytes that occur first, without these bytes. -/
def byFirst (words : List (List UInt8)) : List (UInt8 × List (List UInt8)) :=
  let add := fun (groups : List (UInt8 × List (List UInt8))) (word : List UInt8) =>
    match word with
    | [] => groups
    | b :: rest =>
      match groups.lookup b with
      | some _ => groups.map fun g => if g.1 = b then (b, rest :: g.2) else g
      | none => (b, [rest]) :: groups
  (words.foldl add []).map fun g => (g.1, g.2.reverse)

/-- The words between those that end here. The first words are no more than one if they end here. -/
def betweenEnds (words : List (List UInt8)) : List (List (List UInt8)) :=
  let words :=
    match words with
    | [] :: rest => [] :: rest.dropWhile (· = [])
    | words => words
  splitAtEvery (· = []) words

/-- Counts the states of the tree of some words. The fuel bounds the length of the words. -/
def countTree : (fuel : Nat) → List (List UInt8) → Tally → Option Tally
  | 0, _, t => some t
  | fuel + 1, words, t => do
    let parts := (betweenEnds words).map byFirst
    let countPart := fun (t : Tally) (groups : List (UInt8 × List (List UInt8))) => do
      let inner := groups.filter fun g => g.2.any (· ≠ [])
      let t ← inner.foldlM (fun t g => countTree fuel g.2 t) t
      -- in each part, a state with an arc for every byte that may come next
      match groups with
      | [] => return t
      | [_] => (← t.plain 1).targets 1
      | groups => (← t.branching groups.length).targets 1
    let t ← parts.foldlM countPart t
    -- a fork between the parts and the ends
    (← t.plain 1).targets (parts.length - 1)

def countLiterals (words : List (List UInt8)) (t : Tally) : Option Tally := do
  countTree ((words.map List.length).foldl max 0 + 1) words (← t.plain 1)

end HeaderBindings.Pattern
