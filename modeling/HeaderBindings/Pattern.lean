import HeaderBindings.Pattern.Automaton
import HeaderBindings.Pattern.Program
import HeaderBindings.Pattern.Reader
import HeaderBindings.Text.Word

/-!
# Patterns

Patterns in the usual notation, read once and then matched against names. `Pattern.replaceAll`
rewrites every match by a template, in which `$1`, `$name` and their forms in braces stand for
groups and `$$` stands for a dollar sign.
-/

namespace HeaderBindings

/-- A pattern that is ready to be matched. -/
structure Pattern where
  program : Array Pattern.Instr
  /-- The numbers of the groups that bear names. -/
  names : List (String × Nat)

namespace Pattern

/-- Reads a pattern; the result is `none` if the text is none, or is one of excessive size. -/
def ofString? (text : String) : Option Pattern := do
  let (node, names) ← Reader.read? text
  if node.isFeasible then return ⟨node.program, names⟩ else none

/-! ### Matches -/

/-- The positions kept by a match, latest first. -/
structure Captures where
  saved : List (Nat × Nat)

namespace Captures

/-- Where a group starts and ends, if it took part in the match. -/
def span? (m : Captures) (index : Nat) : Option (Nat × Nat) := do
  return (← m.saved.lookup (2 * index), ← m.saved.lookup (2 * index + 1))

/-- The text of a group, which is empty if the group took no part. -/
def text (m : Captures) (subject : Array Char) (index : Nat) : List Char :=
  match m.span? index with
  | some (start, stop) => (subject.extract start stop).toList
  | none => []

end Captures

def findFrom? (p : Pattern) (subject : Array Char) (start : Nat) : Option Captures :=
  (search p.program subject start (subject.size + 1 - start)).map Captures.mk

/-- The matches from `start` on, from left to right and without overlap. The match before them ended
at `lastStop`. -/
def matchesFrom (p : Pattern) (subject : Array Char) :
    Nat → Nat → Option Nat → List (Captures × Nat × Nat)
  | 0, _, _ => []
  | fuel + 1, start, lastStop =>
    let found := fun start => do
      let m ← p.findFrom? subject start
      let (a, b) ← m.span? 0
      return (m, a, b)
    -- an empty match may not stand where the match before it ended
    let next :=
      match found start with
      | some (m, a, b) => if a = b && some b = lastStop then found (start + 1) else some (m, a, b)
      | none => none
    match next with
    | some (m, a, b) => (m, a, b) :: p.matchesFrom subject fuel b (some b)
    | none => []

/-- All matches in a subject. -/
def allMatches (p : Pattern) (subject : Array Char) : List (Captures × Nat × Nat) :=
  -- of two neighbouring matches the later one ends further right
  p.matchesFrom subject (subject.size + 2) 0 none

def isMatch (p : Pattern) (name : String) : Bool := (p.findFrom? name.toList.toArray 0).isSome

/-! ### Templates -/

inductive Piece where
  | char (c : Char)
  | group (index : Nat)
  | groupNamed (name : List Char)

/-- The characters of a group's name without braces. -/
def isNameChar (c : Char) : Bool :=
  ('0' ≤ c && c ≤ '9') || ('a' ≤ c && c ≤ 'z') || ('A' ≤ c && c ≤ 'Z') || c = '_'

/-- The number that a text of digits denotes, with a plus sign allowed in front, if it fits into 64
bits. -/
def groupNumber? (cs : List Char) : Option Nat :=
  let digits := match cs with
    | '+' :: rest => rest
    | cs => cs
  if digits = [] || digits.any (fun c => c < '0' || '9' < c) then none
  else
    let n := number digits
    if n < Text.wordCount then some n else none

def Piece.reference (name : List Char) : Piece :=
  match groupNumber? name with
  | some n => .group n
  | none => .groupNamed name

/-- Reads the reference after a dollar sign, if one stands there. -/
def reference? : List Char → Option (Piece × List Char)
  | '\x7b' :: cs =>
    match cs.dropWhile (· ≠ '\x7d') with
    | _ :: rest => some (.reference (cs.takeWhile (· ≠ '\x7d')), rest)
    | [] => none
  | cs =>
    match cs.takeWhile isNameChar with
    | [] => none
    | name => some (.reference name, cs.dropWhile isNameChar)

/-- Cuts a template into pieces. A dollar sign that starts no reference is itself. -/
def pieces : Nat → List Char → List Piece
  | 0, _ => []
  | _, [] => []
  | fuel + 1, '$' :: '$' :: rest => .char '$' :: pieces fuel rest
  | fuel + 1, '$' :: rest =>
    match reference? rest with
    | some (piece, rest) => piece :: pieces fuel rest
    | none => .char '$' :: pieces fuel rest
  | fuel + 1, c :: rest => .char c :: pieces fuel rest

/-- The text that takes the place of a match. A group that does not exist is empty. -/
def expand (p : Pattern) (subject : Array Char) (m : Captures) (template : List Char) :
    List Char :=
  (pieces (template.length + 1) template).flatMap fun
    | .char c => [c]
    | .group index => m.text subject index
    | .groupNamed name =>
      match p.names.lookup (String.ofList name) with
      | some index => m.text subject index
      | none => []

/-- The subject from `start` on with the given matches replaced. -/
def splice (p : Pattern) (subject : Array Char) (template : List Char) (start : Nat) :
    List (Captures × Nat × Nat) → List Char
  | [] => (subject.extract start subject.size).toList
  | (m, a, b) :: rest =>
    (subject.extract start a).toList ++ p.expand subject m template
      ++ p.splice subject template b rest

def replaceAll (p : Pattern) (name template : String) : String :=
  let subject := name.toList.toArray
  String.ofList (p.splice subject template.toList 0 (p.allMatches subject))

end Pattern

end HeaderBindings
