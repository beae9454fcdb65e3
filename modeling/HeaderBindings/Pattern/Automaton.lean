import HeaderBindings.Pattern.Automaton.Fragment
import HeaderBindings.Pattern.Syntax

/-!
# The size of a pattern's automaton

Two automata are needed for a pattern, one that goes forward and finds where a match ends, and one
that goes backward and finds where it starts. Repetitions are written out, so that a short pattern
may have large automata; a pattern whose automata are too large is not feasible.
-/

namespace HeaderBindings.Pattern

open Tally

namespace Node

/-- The bytes of a literal in the order in which they are met. -/
def bytes? (d : Direction) : Node → Option (List UInt8)
  | literal cs =>
    let bytes := cs.flatMap String.utf8EncodeChar
    some (match d with | .forward => bytes | .backward => bytes.reverse)
  | _ => none

mutual

/-- Counts the states of a pattern. -/
def counter (d : Direction) : Node → Counter
  | empty => .plain 1
  | literal cs => .plain (cs.map Char.utf8Size).sum
  | chars s => .ofSet d s
  | assertion _ => .plain 1
  | group _ inner => .group d (inner.counter d)
  | sequence parts => sequenceCounter d parts
  | choice branches =>
    match branches.mapM (bytes? d) with
    | some words => .ofLiterals words
    | none => .choice (counters d branches)
  | repeated inner least most _ =>
    match most with
    | some most => (inner.counter d).between least most
    | none => (inner.counter d).atLeast inner.isSolid least

/-- Counts the states of some patterns in a row; going backward the last one comes first. -/
def sequenceCounter (d : Direction) : List Node → Counter
  | [] => .plain 1
  | [n] => n.counter d
  | n :: rest =>
    match d with
    | .forward => (n.counter d).andThen (sequenceCounter d rest)
    | .backward => (sequenceCounter d rest).andThen (n.counter d)

def counters (d : Direction) : List Node → List Counter
  | [] => []
  | n :: rest => n.counter d :: counters d rest

end

/-- Whether an automaton has to try only one place to start from. -/
def isAnchored (d : Direction) (n : Node) : Bool :=
  match d with
  | .forward => n.startsText
  | .backward => n.endsText

/-- The automaton of a pattern as far as it is counted. The whole match is kept as a group. -/
def automaton? (d : Direction) (n : Node) : Option Tally := do
  -- unless the pattern is anchored, a loop over all bytes stands in front of it
  let t : Tally ← if n.isAnchored d then plain {} 1 else add {} 3 (arcSize + 2 * targetSize)
  let a ← ((n.counter d).group d).run t
  -- the last state accepts
  (← a.tally.plain 1).targets a.links

/-- Whether both automata of a pattern are small enough. -/
def isFeasible (n : Node) : Bool :=
  (n.automaton? .forward).isSome && (n.automaton? .backward).isSome

end Node

end HeaderBindings.Pattern
