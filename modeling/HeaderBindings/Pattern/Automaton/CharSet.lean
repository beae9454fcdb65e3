import HeaderBindings.Pattern.Automaton.ByteRange
import HeaderBindings.Pattern.Automaton.Tally
import Std.Data.HashMap

/-!
# The states of a set

A set beyond ASCII is matched byte by byte. Going forward, states with equal arcs are made only
once; going backward, the sequences of byte ranges share what they end with. States are found again
by a table in which every state has one slot, and a later state takes the slot of an earlier one; so
how many states there are depends on their numbers.
-/

namespace HeaderBindings.Pattern

open Tally

/-- The slot of a list of numbers in a table of the given size: the FNV-1a hash of 64 bits. -/
def slotOf (size : Nat) (key : List Nat) : Nat :=
  let mix := fun (hash : UInt64) (n : Nat) => (hash ^^^ n.toUInt64) * 1099511628211
  (key.foldl mix 14695981039346656037).toNat % size

/-- A count of states that can find states again by what identifies them. -/
structure Finder (α : Type) where
  tally : Tally
  slots : Std.HashMap Nat (α × Nat) := ∅

def Finder.find? {α : Type} [DecidableEq α] (f : Finder α) (slot : Nat) (key : α) : Option Nat := do
  let (known, id) ← f.slots[slot]?
  if known = key then return id else none

/-- The number of the state with a key: the state in the slot of the key if it has the same key, and
a new one with some arcs otherwise. -/
def Finder.state {α : Type} [DecidableEq α] (f : Finder α) (slot : Nat) (key : α) (arcs : Nat) :
    Option (Nat × Finder α) :=
  match f.find? slot key with
  | some id => some (id, f)
  | none =>
    let ⟨tally, slots⟩ := f
    match tally.branching arcs with
    | some next => some (tally.states, ⟨next, slots.insert slot (key, tally.states)⟩)
    | none => none

/-! ### Forward -/

structure Arc where
  first : Nat
  last : Nat
  target : Nat
  deriving Repr, DecidableEq

/-- A state that is still to be made: its arcs, latest first, and the byte range of its last arc if
the target of that arc is not yet known. -/
structure Draft where
  arcs : List Arc := []
  last : Option ByteRange := none

def Draft.settled (d : Draft) (target : Nat) : List Arc :=
  match d.last with
  | some (first, last) => ⟨first, last, target⟩ :: d.arcs
  | none => d.arcs

def forwardSlots : Nat := 10000

def Finder.stateOfArcs (f : Finder (List Arc)) (arcs : List Arc) :
    Option (Nat × Finder (List Arc)) :=
  let key := arcs.flatMap fun a => [a.first, a.last, a.target]
  f.state (slotOf forwardSlots key) arcs arcs.length

/-- Makes the innermost `count` drafts into states, the last of which leads to `target`, and settles
the draft around them. -/
def settle (target : Nat) : (count : Nat) → List Draft → Finder (List Arc) →
    Option (List Draft × Finder (List Arc))
  | 0, d :: outer, f => some ({ arcs := d.settled target } :: outer, f)
  | count + 1, d :: outer, f => do
    let (id, f) ← f.stateOfArcs (d.settled target).reverse
    settle id count outer f
  | _, [], f => some ([], f)

/-- How many drafts, outermost first, await the targets of the byte ranges of a sequence. -/
def sharedDrafts : List Draft → List ByteRange → Nat
  | d :: inner, r :: rest => if d.last = some r then sharedDrafts inner rest + 1 else 0
  | _, _ => 0

/-- Adds a sequence of byte ranges that leads to `target`, after sequences below it. -/
def addSequence (target : Nat) (state : List Draft × Finder (List Arc)) (ranges : List ByteRange) :
    Option (List Draft × Finder (List Arc)) := do
  let (drafts, f) := state
  let shared := sharedDrafts drafts.reverse ranges
  let (drafts, f) ← settle target (drafts.length - 1 - shared) drafts f
  match drafts, ranges.drop shared with
  | d :: outer, r :: rest =>
    let inner := rest.map fun r => ({ last := some r } : Draft)
    return (inner.reverse ++ { d with last := some r } :: outer, f)
  | drafts, _ => return (drafts, f)

/-- Counts the states of sequences of byte ranges, which are in rising order, going forward. -/
def countForward (sequences : List (List ByteRange)) (t : Tally) : Option Tally := do
  let target := t.states
  let t ← t.plain 1
  let (drafts, f) ← sequences.foldlM (addSequence target) ([{}], ⟨t, ∅⟩)
  let (drafts, f) ← settle target (drafts.length - 1) drafts f
  let root := (drafts.head?.getD {}).arcs.reverse
  return (← f.stateOfArcs root).2.tally

/-! ### Backward -/

def backwardSlots : Nat := 1000

/-- The number of the state from which a byte range leads to `target`. It has a single arc, which
takes no room. -/
def stateBefore (state : Nat × Finder (Nat × ByteRange)) (r : ByteRange) :
    Option (Nat × Finder (Nat × ByteRange)) :=
  let (target, f) := state
  f.state (slotOf backwardSlots [target, r.1, r.2]) (target, r) 0

/-- Counts the states of sequences of byte ranges, going backward: a fork with a target for every
sequence, and the end to which all sequences lead. -/
def countBackward (sequences : List (List ByteRange)) (t : Tally) : Option Tally := do
  let target := t.states + 1
  let t ← t.plain 2
  let add := fun (f : Finder (Nat × ByteRange)) (ranges : List ByteRange) => do
    let (_, ⟨tally, slots⟩) ← ranges.foldlM stateBefore (target, f)
    return ⟨← tally.targets 1, slots⟩
  return (← sequences.foldlM add ⟨t, ∅⟩).tally

end HeaderBindings.Pattern
