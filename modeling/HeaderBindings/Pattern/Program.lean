import HeaderBindings.Pattern.Marks
import HeaderBindings.Pattern.Syntax

/-!
# Patterns as programs

A pattern is turned into a list of instructions with relative jumps. Running it explores the pairs
of an instruction and a position depth first, in the order of preference, and enters no pair twice;
the first way to reach the end is the preferred match.
-/

namespace HeaderBindings.Pattern

/-- An instruction. Targets are relative to the instruction itself. -/
inductive Instr where
  | chars (s : CharSet)
  /-- Goes on if the assertion holds at the position. -/
  | assertion (a : Assertion)
  | save (slot : Nat)
  /-- Tries the first target, then the second one. -/
  | fork (first second : Int)
  | jump (target : Int)
  | accept
  deriving Repr

/-- A fork that prefers to enter a repetition if it is greedy, and to leave it otherwise. -/
def Instr.prefer (greedy : Bool) (enter leave : Int) : Instr :=
  if greedy then .fork enter leave else .fork leave enter

def copies (count : Nat) (code : List Instr) : List Instr := (List.replicate count code).flatten

/-- Up to `count` rounds of a piece of code; leaving before a round leaves them all. -/
def upTo (greedy : Bool) (code : List Instr) (count : Nat) : List Instr :=
  let round := code.length + 1
  (List.range count).flatMap fun (done : Nat) =>
    .prefer greedy 1 ((count - done) * round : Nat) :: code

def onceOrMore (greedy : Bool) (code : List Instr) : List Instr :=
  code ++ [.prefer greedy (-code.length) 1]

/-- Any number of rounds of a piece of code. -/
def anyTimes (greedy mayBeEmpty : Bool) (code : List Instr) : List Instr :=
  if mayBeEmpty then
    -- the choice whether to start at all is made once, in front of the rounds
    .prefer greedy 1 (code.length + 2) :: onceOrMore greedy code
  else
    .prefer greedy 1 (code.length + 2) :: code ++ [.jump (-(code.length + 1))]

namespace Node

mutual

/-- The code of a pattern. It ends by running off its end. -/
def code : Node → List Instr
  | empty => []
  | literal cs => cs.map fun c => .chars (.single c)
  | chars s => [.chars s]
  | assertion a => [.assertion a]
  | group index inner => .save (2 * index) :: inner.code ++ [.save (2 * index + 1)]
  | sequence parts => sequenceCode parts
  | choice branches => choiceCode branches
  | repeated inner least most greedy =>
    let body := inner.code
    match most, least with
    | some most, least => copies least body ++ upTo greedy body (most - least)
    | none, 0 => anyTimes greedy (!inner.isSolid) body
    | none, least + 1 => copies least body ++ onceOrMore greedy body

def sequenceCode : List Node → List Instr
  | [] => []
  | n :: rest => n.code ++ sequenceCode rest

def choiceCode : List Node → List Instr
  | [] => []
  | [n] => n.code
  | n :: rest =>
    let first := n.code
    let others := choiceCode rest
    .fork 1 (first.length + 2) :: first ++ .jump (others.length + 1) :: others

end

/-- The whole program of a pattern; its match is group 0. -/
def program (n : Node) : Array Instr := ((group 0 n).code ++ [Instr.accept]).toArray

end Node

/-! ### Running -/

/-- Whether an assertion holds between two characters; there is none at an end of the text. -/
def Assertion.holds (before after : Option Char) : Assertion → Bool
  | textStart => before.isNone
  | textEnd => after.isNone
  | lineStart false => before.isNone || before = some '\n'
  | lineEnd false => after.isNone || after = some '\n'
  | lineStart true =>
    before.isNone || before = some '\n' || (before = some '\r' && after ≠ some '\n')
  | lineEnd true =>
    after.isNone || after = some '\r' || (after = some '\n' && before ≠ some '\r')
  | wordBoundary word => before.any word.contains != after.any word.contains
  | notWordBoundary word => before.any word.contains == after.any word.contains
  | wordStart word => !before.any word.contains && after.any word.contains
  | wordEnd word => before.any word.contains && !after.any word.contains
  | wordStartHalf word => !before.any word.contains
  | wordEndHalf word => !after.any word.contains

/-- A way to go on: an instruction, a position, and the positions kept so far, latest first. -/
structure Thread where
  pc : Nat
  pos : Nat
  saved : List (Nat × Nat)

namespace Thread

def goto (t : Thread) (target : Int) : Thread := { t with pc := (t.pc + target).toNat }

def next (t : Thread) : Thread := { t with pc := t.pc + 1 }

/-- The threads that take the place of `t` after its instruction, the preferred one first. -/
def step (text : Array Char) (t : Thread) : Instr → List Thread
  | .chars s =>
    match text[t.pos]? with
    | some c => if s.contains c then [{ t.next with pos := t.pos + 1 }] else []
    | none => []
  | .assertion a =>
    let before := if t.pos = 0 then none else text[t.pos - 1]?
    if a.holds before text[t.pos]? then [t.next] else []
  | .save slot => [{ t.next with saved := (slot, t.pos) :: t.saved }]
  | .fork first second => [t.goto first, t.goto second]
  | .jump target => [t.goto target]
  | .accept => []

end Thread

/-- Runs the threads in order until one reaches the end, and returns the positions that it kept. The
fuel bounds the number of threads that are taken up. -/
def explore (program : Array Instr) (text : Array Char) :
    Nat → Marks → List Thread → Option (List (Nat × Nat))
  | 0, _, _ => none
  | _ + 1, _, [] => none
  | fuel + 1, visited, t :: rest =>
    let cell := t.pc * (text.size + 1) + t.pos
    -- an instruction that was entered at this position led to no match
    if visited.contains cell then explore program text fuel visited rest
    else
      match program[t.pc]? with
      | none => explore program text fuel visited rest
      | some .accept => some t.saved
      | some instr => explore program text fuel (visited.insert cell) (t.step text instr ++ rest)

/-- The first match that starts at one of the `count` positions from `start` on; of those that start
at the same position, the preferred one. -/
def search (program : Array Instr) (text : Array Char) (start count : Nat) :
    Option (List (Nat × Nat)) :=
  let starts := (List.range count).map fun i => ⟨0, start + i, []⟩
  let cells := (program.size + 1) * (text.size + 1)
  -- every cell is entered once and leaves at most two threads behind
  explore program text (2 * cells + count + 1) (Marks.empty cells) starts

end HeaderBindings.Pattern
