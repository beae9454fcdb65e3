import HeaderBindings.Pattern.Reader.Flags
import HeaderBindings.Text.Cut
import HeaderBindings.Text.Digit

/-!
# Escapes in patterns

What a backslash and the characters after it denote: characters that have a meaning of their own,
characters by their codes, classes, character properties and assertions.
-/

namespace HeaderBindings.Pattern.Reader

open HeaderBindings.Text (isDigit isLetter digitIn? cutAt?)

/-- What a backslash and the characters after it denote. -/
inductive Escape where
  /-- A character. One that is given by two hexadecimal digits is a byte without the `u` flag. -/
  | char (c : Char) (isByte : Bool)
  | set (s : CharSet)
  | assertion (a : Assertion)

/-- The characters that have a meaning of their own in patterns. -/
def isMeta (c : Char) : Bool := "\\.+*?()|[]\x7b\x7d^$#&-~".toList.contains c

/-- The characters that stand for themselves after a backslash. -/
def isEscapable (c : Char) : Bool :=
  isMeta c || (c.toNat ≤ 0x7F && !isLetter c && !isDigit c && c ≠ '<' && c ≠ '>')

def charOfCode? (n : Nat) : Option Char := if n.isValidChar then some (Char.ofNat n) else none

/-- Reads `count` further hexadecimal digits. -/
def hexDigits (f : Flags) (acc : Nat) : Nat → List Char → Option (Nat × List Char)
  | 0, cs => some (acc, cs)
  | count + 1, cs =>
    match f.skip cs with
    | [] => none
    | c :: rest => do hexDigits f (16 * acc + (← digitIn? 16 c)) count rest

/-- Reads hexadecimal digits up to a closing brace; at least one is needed. -/
def hexInBraces (f : Flags) : Nat → Option Nat → List Char → Option (Nat × List Char)
  | 0, _, _ => none
  | fuel + 1, acc, cs =>
    match f.skip cs with
    | [] => none
    | '\x7d' :: rest => acc.map fun n => (n, rest)
    | c :: rest => do hexInBraces f fuel (some (16 * acc.getD 0 + (← digitIn? 16 c))) rest

/-- Reads a character given by its code: `digits` digits, or any number of them in braces. -/
def charByCode (f : Flags) (digits : Nat) (cs : List Char) : Option (Escape × List Char) :=
  match f.skip cs with
  | '\x7b' :: rest => do
    let (n, rest) ← hexInBraces f (rest.length + 1) none rest
    return (.char (← charOfCode? n) false, rest)
  | rest => do
    let (n, rest) ← hexDigits f 0 digits rest
    return (.char (← charOfCode? n) (digits = 2), rest)

/-- The characters up to a closing brace, and what follows it. -/
def upToBrace (f : Flags) : Nat → List Char → List Char → Option (List Char × List Char)
  | 0, _, _ => none
  | fuel + 1, acc, cs =>
    match f.skip cs with
    | [] => none
    | '\x7d' :: rest => some (acc.reverse, rest)
    | c :: rest => upToBrace f fuel (c :: acc) rest

/-- The set that the text between the braces of `\p{…}` denotes. -/
def propertyInBraces (f : Flags) (text : List Char) : Option CharSet :=
  let valued := fun (p : List Char × List Char) =>
    Property.ofNameAndValue? (String.ofList p.1) (String.ofList p.2)
  match cutAt? ['!', '='] text with
  | some p => (valued p).bind fun s => f.compl? (f.fold s)
  | none =>
    match (cutAt? [':'] text).or (cutAt? ['='] text) with
    | some p => (valued p).map f.fold
    | none => (Property.ofName? (String.ofList text)).map f.fold

/-- Reads the name of a property after `\p`. Properties need the `u` flag. -/
def property (f : Flags) (negated : Bool) (cs : List Char) : Option (Escape × List Char) := do
  if !f.unicode then none
  let (s, rest) ←
    match f.skip cs with
    | [] => none
    | '\\' :: _ => none
    | '\x7b' :: rest => do
      let (text, rest) ← upToBrace f (rest.length + 1) [] rest
      pure (← propertyInBraces f text, rest)
    | c :: rest => do pure (f.fold (← Property.ofName? (String.singleton c)), rest)
  return (.set (← f.negate? negated s), rest)

/-- The characters of which the names in `\b{…}` consist. -/
def isBoundaryLetter (c : Char) : Bool := isLetter c || c = '-'

/-- Reads the letters of a name in `\b{…}` up to the closing brace. -/
def boundaryName (f : Flags) : Nat → List Char → List Char → Option (String × List Char)
  | 0, _, _ => none
  | fuel + 1, acc, cs =>
    match f.skip cs with
    | [] => none
    | '\x7d' :: rest => some (String.ofList acc.reverse, rest)
    | c :: rest => if isBoundaryLetter c then boundaryName f fuel (c :: acc) rest else none

/-- Reads what follows `\b`: a name in braces, or nothing if the brace belongs to a repetition. -/
def wordBoundary (f : Flags) (cs : List Char) : Option (Escape × List Char) :=
  let plain := some (Escape.assertion (.wordBoundary f.word), cs)
  match cs with
  | '\x7b' :: rest =>
    match f.skip rest with
    | [] => none
    | c :: _ =>
      if isBoundaryLetter c then do
        let (name, rest) ← boundaryName f (rest.length + 1) [] rest
        match name with
        | "start" => return (.assertion (.wordStart f.word), rest)
        | "end" => return (.assertion (.wordEnd f.word), rest)
        | "start-half" => return (.assertion (.wordStartHalf f.word), rest)
        | "end-half" => return (.assertion (.wordEndHalf f.word), rest)
        | _ => none
      else plain
  | _ => plain

/-- The classes `\d`, `\s` and `\w`. -/
def letterClass (f : Flags) : Char → CharSet
  | 'd' => if f.unicode then Property.digit else Property.asciiDigit
  | 's' => if f.unicode then Property.blank else Property.asciiBlank
  | _ => f.word

def escape (f : Flags) : List Char → Option (Escape × List Char)
  | [] => none
  | c :: cs =>
    if isDigit c then none
    else if isEscapable c then some (.char c false, cs)
    else
      match c with
      | 'x' => charByCode f 2 cs
      | 'u' => charByCode f 4 cs
      | 'U' => charByCode f 8 cs
      | 'p' => property f false cs
      | 'P' => property f true cs
      | 'd' | 's' | 'w' => some (.set (letterClass f c), cs)
      | 'D' => (f.compl? (letterClass f 'd')).map fun s => (.set s, cs)
      | 'S' => (f.compl? (letterClass f 's')).map fun s => (.set s, cs)
      | 'W' => (f.compl? (letterClass f 'w')).map fun s => (.set s, cs)
      | 'a' => some (.char '\x07' false, cs)
      | 'f' => some (.char '\x0C' false, cs)
      | 't' => some (.char '\t' false, cs)
      | 'n' => some (.char '\n' false, cs)
      | 'r' => some (.char '\r' false, cs)
      | 'v' => some (.char '\x0B' false, cs)
      | 'A' => some (.assertion .textStart, cs)
      | 'z' => some (.assertion .textEnd, cs)
      | 'b' => wordBoundary f cs
      | 'B' => some (.assertion (.notWordBoundary f.word), cs)
      | '<' => some (.assertion (.wordStart f.word), cs)
      | '>' => some (.assertion (.wordEnd f.word), cs)
      | _ => none

end HeaderBindings.Pattern.Reader
