import HeaderBindings.Pattern.Reader.Escape

/-!
# Bracketed classes of patterns

Classes such as `[a-z&&[^aeiou]]`: items, ranges, classes inside of classes, and the intersection,
difference and symmetric difference of what stands on the two sides of an operator. Operators are
applied from left to right.
-/

namespace HeaderBindings.Pattern.Reader

/-- The operations between the parts of a class. -/
inductive ClassOp where
  | inter | diff | symmDiff

def ClassOp.apply (f : Flags) (op : ClassOp) (left right : CharSet) : CharSet :=
  let a := f.fold left
  let b := f.fold right
  match op with
  | inter => a.inter b
  | diff => a.sdiff b
  | symmDiff => a.symmDiff b

/-- The items of a class after its last operation. -/
structure Items where
  set : CharSet := .empty
  count : Nat := 0
  depth : Nat := 0

def Items.add (items : Items) (s : CharSet) (depth : Nat) : Items :=
  ⟨items.set.union s, items.count + 1, max items.depth depth⟩

def Items.addChar (items : Items) (c : Char) : Items := items.add (.single c) 0

/-- How deeply operators are nested in the union of the items. -/
def Items.unionDepth (items : Items) : Nat :=
  if 2 ≤ items.count then items.depth + 1 else items.depth

/-- An operation that waits for its right side: the set on its left, and how deeply operators are
nested there. -/
structure OpenOp where
  op : ClassOp
  left : CharSet
  depth : Nat

/-- A class that is being read: the items of the class around it, whether it is negated, and the
operation that waits for its right side. -/
structure OpenClass where
  outer : Items
  negated : Bool
  pending : Option OpenOp := none

/-- The set read so far, with the operation that waits, and its depth. -/
def OpenClass.combine (f : Flags) (o : OpenClass) (items : Items) : CharSet × Nat :=
  match o.pending with
  | some p => (p.op.apply f p.left items.set, max p.depth items.unionDepth + 1)
  | none => (items.set, items.unionDepth)

/-- The set of a class that is closed after `items`, and its depth. -/
def OpenClass.close? (f : Flags) (o : OpenClass) (items : Items) : Option (CharSet × Nat) := do
  let (s, depth) := o.combine f items
  return (← f.negate? o.negated (f.fold s), depth + 1)

/-- Where in a class the reader stands: a hyphen is itself at the start, and a bracket is if it
comes first. -/
inductive ClassPlace where
  | start | hyphens | inside
  deriving DecidableEq

def classItem (f : Flags) : List Char → Option (Escape × List Char)
  | [] => none
  | '\\' :: cs => escape f cs
  | c :: cs => some (.char c false, cs)

/-- The character of an item that bounds a range. Without the `u` flag it is an ASCII character. -/
def Escape.bound? (f : Flags) : Escape → Option Char
  | char c _ => if f.unicode || c.toNat ≤ 0x7F then some c else none
  | _ => none

def Escape.items? (f : Flags) : Escape → Option CharSet
  | set s => some s
  | e => (e.bound? f).map CharSet.single

def classRange (f : Flags) (cs : List Char) : Option (CharSet × List Char) := do
  let (first, rest) ← classItem f cs
  match f.skip rest with
  | [] => none
  | '-' :: rest =>
    let next := f.afterHyphen? rest
    if next = some ']' ∨ next = some '-' then return (← first.items? f, '-' :: rest)
    else
      let (second, rest) ← classItem f (f.skip rest)
      let lo ← first.bound? f
      let hi ← second.bound? f
      if lo ≤ hi then return (.range lo hi, rest) else none
  | rest => return (← first.items? f, rest)

/-- Reads a class such as `[:alpha:]` after its first bracket, if there is one: whether it is
negated, its set, and the rest. -/
def asciiClass? (f : Flags) (cs : List Char) : Option (Bool × CharSet × List Char) := do
  let (negated, cs) ←
    match cs with
    | ':' :: '^' :: rest => some (true, rest)
    | ':' :: rest => some (false, rest)
    | _ => none
  let name := cs.takeWhile (· ≠ ':')
  let s ← Property.asciiClasses.lookup (String.ofList name)
  match cs.dropWhile (· ≠ ':') with
  | ':' :: ']' :: rest => return (negated, f.fold s, rest)
  | _ => none

/-- What follows the bracket that opens a class: whether it is negated, and the rest. -/
def classStart (f : Flags) (cs : List Char) : Bool × List Char :=
  match f.skip cs with
  | '^' :: rest => (true, rest)
  | rest => (false, rest)

def classOp? : List Char → Option (ClassOp × List Char)
  | '&' :: '&' :: rest => some (.inter, rest)
  | '-' :: '-' :: rest => some (.diff, rest)
  | '~' :: '~' :: rest => some (.symmDiff, rest)
  | _ => none

/-- Reads the inside of a class: `current` is open, the classes of `outer` are around it, and
`items` are its items after the last operation. The result is the set and how deeply operators are
nested. -/
def classBody (f : Flags) :
    Nat → OpenClass → List OpenClass → Items → ClassPlace → List Char →
      Option ((CharSet × Nat) × List Char)
  | 0, _, _, _, _, _ => none
  | fuel + 1, current, outer, items, place, cs =>
    match f.skip cs with
    | [] => none
    | c :: rest =>
      -- at the start, hyphens and one closing bracket stand for themselves
      if c = '-' && place ≠ .inside then
        classBody f fuel current outer (items.addChar '-') .hyphens rest
      else if c = ']' && place = .start then
        classBody f fuel current outer (items.addChar ']') .inside rest
      else if c = ']' then
        match current.close? f items, outer with
        | none, _ => none
        | some closed, [] => some (closed, rest)
        | some (s, depth), next :: outer =>
          classBody f fuel next outer (current.outer.add s depth) .inside rest
      else if c = '[' then
        match asciiClass? f rest with
        | some (negated, s, rest) =>
          match f.negate? negated s with
          | some s => classBody f fuel current outer (items.add s 0) .inside rest
          | none => none
        | none =>
          let (negated, rest) := classStart f rest
          classBody f fuel ⟨items, negated, none⟩ (current :: outer) {} .start rest
      else
        match classOp? (c :: rest) with
        | some (op, rest) =>
          let (left, depth) := current.combine f items
          let current := { current with pending := some ⟨op, left, depth⟩ }
          classBody f fuel current outer {} .inside rest
        | none =>
          match classRange f (c :: rest) with
          | some (s, rest) => classBody f fuel current outer (items.add s 0) .inside rest
          | none => none

def bracketed (f : Flags) (cs : List Char) : Option ((CharSet × Nat) × List Char) :=
  let (negated, rest) := classStart f cs
  classBody f (cs.length + 1) ⟨{}, negated, none⟩ [] {} .start rest

end HeaderBindings.Pattern.Reader
