import HeaderBindings.Pattern.Property.Latest
import HeaderBindings.Pattern.Reader.BracketClass

/-!
# Reading patterns

The notation of patterns: alternatives, groups with and without names, greedy and lazy repetitions,
bracketed classes, escapes and inline flags. A text that is not a well-formed pattern is refused; so
are look-around and back-references, which patterns of this kind cannot express.
-/

namespace HeaderBindings.Pattern.Reader

open HeaderBindings.Text (isBlank isDigit isLetter)

/-! ### Sequences, alternatives and groups -/

/-- A part of a sequence. Inline flags are a part on which no repetition can act. -/
structure Part where
  node : Node
  /-- How deeply operators are nested in the part. -/
  depth : Nat := 0
  repeatable : Bool := true

def depthAround (parts : List Part) : Nat := (parts.map Part.depth).foldl max 0 + 1

/-- The sequence of parts that are given last first. -/
def sequence : List Part → Part
  | [] => { node := .empty }
  | [p] => p
  | parts => { node := .inSequence (parts.reverse.map Part.node), depth := depthAround parts }

def choice : List Part → Part
  | [] => { node := .empty }
  | [p] => p
  | branches => { node := .oneOf (branches.reverse.map Part.node), depth := depthAround branches }

/-- What a closing parenthesis closes. -/
structure OpenGroup where
  /-- The parts in front of the group, last first. -/
  parts : List Part
  /-- The branches in front of the one that holds the group, last first. -/
  branches : List Part
  /-- The number of the group, if its match is kept. -/
  index : Option Nat
  /-- The flags to return to. -/
  flags : Flags

/-- The reader between two parts of a sequence. -/
structure State where
  flags : Flags := {}
  parts : List Part := []
  branches : List Part := []
  groups : List OpenGroup := []
  count : Nat := 0
  names : List (String × Nat) := []

def State.push (s : State) (p : Part) : State := { s with parts := p :: s.parts }

def State.pushNode (s : State) (n : Node) : State := s.push ⟨n, 0, true⟩

/-- The branch that is being read, and those before it, as one part. -/
def State.branchesPart (s : State) : Part := choice (sequence s.parts :: s.branches)

def State.openGroup (s : State) (index : Option Nat) (flags : Flags) : State :=
  { s with
    flags := flags, parts := [], branches := []
    groups := ⟨s.parts, s.branches, index, s.flags⟩ :: s.groups }

def State.closeGroup? (s : State) : Option State :=
  match s.groups with
  | [] => none
  | g :: groups =>
    let inner := s.branchesPart
    let node := match g.index with
      | some i => .group i inner.node
      | none => inner.node
    some { s with
      flags := g.flags, branches := g.branches, groups := groups
      parts := ⟨node, inner.depth + 1, true⟩ :: g.parts }

/-- The part that a repetition acts on. -/
def State.repeat? (s : State) (least : Nat) (most : Option Nat) (isLazy : Bool) : Option State :=
  match s.parts with
  | p :: parts =>
    if p.repeatable then
      let greedy := isLazy == s.flags.swapGreed
      some { s with parts := ⟨p.node.inRounds least most greedy, p.depth + 1, true⟩ :: parts }
    else none
  | [] => none

/-- The largest number that a repetition may give: 2^32 - 1. -/
def maxCount : Nat := 0xFFFFFFFF

/-- Reads decimal digits, with blanks allowed around them. -/
def countDigits (f : Flags) : Nat → Option Nat → List Char → Option Nat × List Char
  | 0, acc, cs => (acc, cs)
  | fuel + 1, acc, cs =>
    match f.skip cs with
    | [] => (acc, [])
    | c :: rest =>
      if isDigit c then
        countDigits f fuel (some (10 * acc.getD 0 + (c.toNat - '0'.toNat))) rest
      else (acc, c :: rest)

/-- Reads a count of rounds; the outer option says whether digits are there and small enough. -/
def count (f : Flags) (cs : List Char) : Option Nat × List Char :=
  let cs := cs.dropWhile isBlank
  let (n, rest) := countDigits f (cs.length + 1) none cs
  (n.filter (· ≤ maxCount), f.skip (rest.dropWhile isBlank))

/-- Reads the rest of a repetition with counts, after its opening brace. -/
def counted (s : State) (cs : List Char) : Option (State × List Char) := do
  let f := s.flags
  let cs := f.skip cs
  if cs = [] then none
  let (least, cs) := count f cs
  let (least, most, cs) ←
    match cs with
    | ',' :: cs =>
      match f.skip cs with
      | [] => none
      | '\x7d' :: rest => do
        let n ← least
        pure (n, none, '\x7d' :: rest)
      | cs => do
        let n ← least
        let (most, cs) := count f cs
        let m ← most
        if n ≤ m then pure (n, some m, cs) else none
    | cs => do
      let n ← least
      pure (n, some n, cs)
  match cs with
  | '\x7d' :: rest =>
    match f.skip rest with
    | '?' :: rest => do return (← s.repeat? least most true, rest)
    | rest => do return (← s.repeat? least most false, rest)
  | _ => none

/-- Reads the mark that makes a repetition lazy. -/
def uncounted (s : State) (least : Nat) (most : Option Nat) (cs : List Char) :
    Option (State × List Char) :=
  match cs with
  | '?' :: rest => (s.repeat? least most true).map fun s => (s, rest)
  | rest => (s.repeat? least most false).map fun s => (s, rest)

def isNameChar (isFirst : Bool) (c : Char) : Bool :=
  let isAlphabetic := if c.toNat ≤ 0x7F then isLetter c else Property.letters.contains c
  let isNumber := if c.toNat ≤ 0x7F then isDigit c else Property.numbers.contains c
  c = '_' || isAlphabetic || (!isFirst && (c = '.' || c = '[' || c = ']' || isNumber))

/-- Reads the name of a group up to the closing angle bracket. -/
def groupName? (cs : List Char) : Option (String × List Char) :=
  let name := cs.takeWhile (· ≠ '>')
  match name, cs.dropWhile (· ≠ '>') with
  | c :: more, _ :: rest =>
    if isNameChar true c && more.all (isNameChar false) then some (String.ofList name, rest)
    else none
  | _, _ => none

def namedGroup (s : State) (cs : List Char) : Option (State × List Char) := do
  let (name, rest) ← groupName? cs
  if (s.names.lookup name).isSome then none
  let s := { s with count := s.count + 1, names := (name, s.count + 1) :: s.names }
  return (s.openGroup (some s.count) s.flags, rest)

/-- Reads what follows an opening parenthesis. -/
def group (s : State) (cs : List Char) : Option (State × List Char) :=
  match s.flags.skip cs with
  | '?' :: '=' :: _ | '?' :: '!' :: _ | '?' :: '<' :: '=' :: _ | '?' :: '<' :: '!' :: _ => none
  | '?' :: 'P' :: '<' :: rest => namedGroup s rest
  | '?' :: '<' :: rest => namedGroup s rest
  | '?' :: rest => do
    let text := rest.takeWhile fun c => c ≠ ':' && c ≠ ')'
    let flags ← applyFlags s.flags false [] text
    match rest.dropWhile fun c => c ≠ ':' && c ≠ ')' with
    | ')' :: rest =>
      if text = [] then none
      else return (({ s with flags }).push ⟨.empty, 0, false⟩, rest)
    | _ :: rest => return (s.openGroup none flags, rest)
    | [] => none
  | rest =>
    let s := { s with count := s.count + 1 }
    some (s.openGroup (some s.count) s.flags, rest)

/-- The node of a single character. A byte that is no character has none. -/
def charNode? (f : Flags) (c : Char) (isByte : Bool) : Option Node :=
  if isByte && !f.unicode && 0x7F < c.toNat then none else some (.ofSet (f.fold (.single c)))

def escapeNode? (f : Flags) : Escape → Option Node
  | .char c isByte => charNode? f c isByte
  | .set s => some (.ofSet s)
  | .assertion a => some (.assertion a)

/-- The node of a dot: any character but a line break, unless the flags say otherwise. -/
def dotNode? (f : Flags) : Option Node :=
  if f.unicode then
    let breaks : CharSet :=
      if f.dotMatchesNewline then .empty
      else if f.crlf then ⟨[(0x0A, 0x0A), (0x0D, 0x0D)]⟩ else .single '\n'
    some (.ofSet breaks.compl)
  else none

/-- Reads the next part, operator or parenthesis. -/
def step (s : State) (c : Char) (rest : List Char) : Option (State × List Char) :=
  let f := s.flags
  match c with
  | '(' => group s rest
  | ')' => s.closeGroup?.map fun s => (s, rest)
  | '|' => some ({ s with parts := [], branches := sequence s.parts :: s.branches }, rest)
  | '[' => do
    let ((set, depth), rest) ← bracketed f rest
    return (s.push ⟨.ofSet set, depth, true⟩, rest)
  | '?' => uncounted s 0 (some 1) rest
  | '*' => uncounted s 0 none rest
  | '+' => uncounted s 1 none rest
  | '\x7b' => counted s rest
  | '\\' => do
    let (e, rest) ← escape f rest
    return (s.pushNode (← escapeNode? f e), rest)
  | '.' => do return (s.pushNode (← dotNode? f), rest)
  | '^' =>
    some (s.pushNode (.assertion (if f.multiLine then .lineStart f.crlf else .textStart)), rest)
  | '$' =>
    some (s.pushNode (.assertion (if f.multiLine then .lineEnd f.crlf else .textEnd)), rest)
  | c => do return (s.pushNode (← charNode? f c false), rest)

/-- Reads parts until the text ends. Every round takes up at least one character. -/
def loop : Nat → State → List Char → Option State
  | 0, _, _ => none
  | fuel + 1, s, cs =>
    match s.flags.skip cs with
    | [] => some s
    | c :: rest =>
      match step s c rest with
      | some (s, rest) => loop fuel s rest
      | none => none

/-- Operators may be nested this deeply. -/
def maxDepth : Nat := 250

/-- Reads a whole pattern: its tree, and the numbers of the groups that bear names. -/
def read? (text : String) : Option (Node × List (String × Nat)) := do
  let cs := text.toList
  let s ← loop (cs.length + 1) {} cs
  let part := s.branchesPart
  if s.groups.isEmpty && part.depth ≤ maxDepth then return (part.node, s.names) else none

end HeaderBindings.Pattern.Reader
