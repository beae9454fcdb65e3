import HeaderBindings.Pattern.Automaton.CharSet
import HeaderBindings.Pattern.Automaton.Literals

/-!
# Fragments of an automaton

A pattern is made into fragments of an automaton that are linked to each other. A counter counts the
states of a fragment, wherever it stands; the counters of larger fragments are composed of those of
their parts.
-/

namespace HeaderBindings.Pattern

open Tally

inductive Direction where
  | forward | backward
  deriving Repr, DecidableEq

/-- What has been counted after a fragment, and whether the fragment ends in a fork, for which going
on is one more target. -/
structure Fragment where
  tally : Tally
  endsInFork : Bool := false

def Fragment.links (a : Fragment) : Nat := if a.endsInFork then 1 else 0

/-- How the states of a fragment are counted after those that have been counted before. -/
structure Counter where
  run : Tally → Option Fragment

def Fragment.andThen (a : Fragment) (next : Counter) : Option Fragment := do
  let b ← next.run a.tally
  return { b with tally := ← b.tally.targets a.links }

def Fragment.copies (part : Counter) : Nat → Fragment → Option Fragment
  | 0, a => some a
  | count + 1, a =>
    match a.andThen part with
    | some a => copies part count a
    | none => none

/-- A fragment that is followed by up to `count` copies of a part, with a fork in front of each. -/
def Fragment.options (part : Counter) : Nat → Fragment → Option Fragment
  | 0, a => some a
  | count + 1, a =>
    let next := do
      let b ← part.run (← a.tally.plain 1)
      return { b with tally := ← b.tally.targets (a.links + 2) }
    match next with
    | some a => options part count a
    | none => none

namespace Counter

def plain (states : Nat) : Counter where
  run t := do return { tally := ← t.plain states }

/-- Counts the states of a set. -/
def ofSet (d : Direction) (s : CharSet) : Counter :=
  if s.isAscii then
    -- one state with an arc for every range leads to the end
    let arcs := s.ranges.length
    ⟨fun t => do return { tally := ← (← t.plain 1).branching arcs }⟩
  else
    let sequences := s.byteRanges
    match d with
    | .forward => ⟨fun t => do return { tally := ← countForward sequences t }⟩
    | .backward => ⟨fun t => do return { tally := ← countBackward sequences t }⟩

def ofLiterals (words : List (List UInt8)) : Counter where
  run t := do return { tally := ← countLiterals words t }

/-- Counts a group: a state at either end, going forward, and none going backward. -/
def group (d : Direction) (inner : Counter) : Counter :=
  match d with
  | .forward =>
    ⟨fun t => do
      let a ← inner.run (← t.plain 1)
      return { tally := ← (← a.tally.plain 1).targets a.links }⟩
  | .backward => inner

def andThen (first second : Counter) : Counter where
  run t := do (← first.run t).andThen second

def exactly (part : Counter) (count : Nat) : Counter :=
  match count with
  | 0 => plain 1
  | count + 1 => ⟨fun t => do Fragment.copies part count (← part.run t)⟩

def optional (part : Counter) : Counter where
  run t := do
    let a ← part.run (← t.plain 1)
    return { tally := ← (← a.tally.plain 1).targets (a.links + 2) }

def between (part : Counter) (least most : Nat) : Counter :=
  if least = most then part.exactly least
  else if least = 0 ∧ most = 1 then part.optional
  else
    ⟨fun t => do
      let a ← (part.exactly least).run t
      let b ← Fragment.options part (most - least) { a with tally := ← a.tally.plain 1 }
      return { tally := ← b.tally.targets b.links }⟩

/-- Counts `least` or more copies of a part. -/
def atLeast (part : Counter) (isSolid : Bool) (least : Nat) : Counter :=
  if 0 < least then
    ⟨fun t => do
      let a ← (part.exactly least).run t
      return { tally := ← (← a.tally.plain 1).targets (a.links + 1), endsInFork := true }⟩
  else if isSolid then
    ⟨fun t => do
      let a ← part.run (← t.plain 1)
      return { tally := ← a.tally.targets (a.links + 1), endsInFork := true }⟩
  else
    -- a part that may match the empty text, and may be left out, is guarded by a second fork
    ⟨fun t => do
      let a ← part.run t
      return { tally := ← (← a.tally.plain 3).targets (a.links + 4) }⟩

def others : List Counter → Tally → Option Tally
  | [], t => some t
  | branch :: rest, t => do
    let a ← branch.run t
    others rest (← a.tally.targets (a.links + 1))

/-- Counts a choice, of which the fork and the end are made after the second branch. -/
def choice (branches : List Counter) : Counter where
  run t := do
    match branches with
    | first :: second :: rest =>
      let a ← first.run t
      let b ← second.run a.tally
      let t ← (← b.tally.plain 2).targets (a.links + b.links + 2)
      return { tally := ← others rest t }
    | [only] => only.run t
    | [] => (plain 1).run t

end Counter

end HeaderBindings.Pattern
