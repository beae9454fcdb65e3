import HeaderBindings.Toml.Datetime
import HeaderBindings.Toml.Lexeme
import HeaderBindings.Toml.Number
import HeaderBindings.Toml.Table

/-!
# Reading TOML

A text is a sequence of lines with one statement each: a header or a key with its value. Arrays may
extend over several lines, inline tables may not. Nesting is bounded, both of values and of keys.
-/

namespace HeaderBindings.Toml

open HeaderBindings.Text (isDigit isLetter)

/-- The largest number of parts of a key, and of arrays and inline tables around a value. -/
def maxDepth : Nat := 79

/-! ### Keys -/

def isBare (c : Char) : Bool := isLetter c || isDigit c || c = '_' || c = '-'

def readPart? (cs : List Char) : Option (String × List Char) :=
  match cs with
  | '"' :: rest => (readBasic rest).map fun (text, rest) => (String.ofList text, rest)
  | '\'' :: rest => (readLiteral rest).map fun (text, rest) => (String.ofList text, rest)
  | cs =>
    match cs.takeWhile isBare with
    | [] => none
    | name => some (String.ofList name, cs.dropWhile isBare)

/-- Reads a key of at most `limit` parts, with the blanks around each. -/
def readKey : (limit : Nat) → List Char → Option (DottedKey × List Char)
  | 0, _ => none
  | limit + 1, cs => do
    let (part, rest) ← readPart? (skip cs)
    match skip rest with
    | '.' :: rest => do
      let (key, rest) ← readKey limit rest
      return (⟨part :: key.tables, key.last⟩, rest)
    | rest => return (⟨[], part⟩, rest)

/-! ### Values -/

def readNumeric (cs : List Char) : Option (Toml × List Char) :=
  readDatetime cs <|> readFloat cs <|> readSpecial cs <|> readInteger cs

def readScalar (cs : List Char) : Option (Toml × List Char) :=
  match cs with
  | '"' :: _ | '\'' :: _ => (readString cs).map fun (text, rest) => (.string text, rest)
  | 't' :: 'r' :: 'u' :: 'e' :: rest => some (.boolean true, rest)
  | 'f' :: 'a' :: 'l' :: 's' :: 'e' :: rest => some (.boolean false, rest)
  | cs => readNumeric cs

mutual

/-- Reads a value inside of which arrays and inline tables may be nested `level` deep. The fuel
bounds the number of values and pairs. -/
def readValue : (fuel level : Nat) → List Char → Option (Toml × List Char)
  | 0, _, _ => none
  | fuel + 1, level, cs =>
    match cs, level with
    | '[' :: _, 0 => none
    | '[' :: rest, level + 1 => do
      let (elems, rest) ← readElems fuel level rest
      return (.array elems, rest)
    | '\x7b' :: _, 0 => none
    | '\x7b' :: rest, level + 1 => do
      let (pairs, rest) ←
        match skip rest with
        | '\x7d' :: rest => pure ([], rest)
        | rest => readPairs fuel level rest
      return (← ofPairs? pairs, rest)
    | cs, _ => readScalar cs

/-- Reads the elements of an array up to its closing bracket. A comma may follow the last one. -/
def readElems : (fuel level : Nat) → List Char → Option (List Toml × List Char)
  | 0, _, _ => none
  | fuel + 1, level, cs => do
    match ← skipLines cs.length cs with
    | ']' :: rest => return ([], rest)
    | rest => do
      let (elem, rest) ← readValue fuel level rest
      match ← skipLines rest.length rest with
      | ',' :: rest => do
        let (elems, rest) ← readElems fuel level rest
        return (elem :: elems, rest)
      | ']' :: rest => return ([elem], rest)
      | _ => none

/-- Reads the pairs of an inline table up to its closing brace; there is at least one. -/
def readPairs : (fuel level : Nat) → List Char → Option (List (DottedKey × Toml) × List Char)
  | 0, _, _ => none
  | fuel + 1, level, cs => do
    let (key, rest) ← readKey maxDepth cs
    match rest with
    | '=' :: rest => do
      let (value, rest) ← readValue fuel level (skip rest)
      match skip rest with
      | ',' :: rest => do
        let (pairs, rest) ← readPairs fuel level rest
        return ((key, value) :: pairs, rest)
      | '\x7d' :: rest => return ([(key, value)], rest)
      | _ => none
    | _ => none

end

/-! ### Statements -/

def readStatement (cs : List Char) : Option (Statement × List Char) :=
  match cs with
  | '[' :: '[' :: rest => do
    match ← readKey maxDepth rest with
    | (key, ']' :: ']' :: rest) => return (.element key, rest)
    | _ => none
  | '[' :: rest => do
    match ← readKey maxDepth rest with
    | (key, ']' :: rest) => return (.section key, rest)
    | _ => none
  | cs => do
    match ← readKey maxDepth cs with
    | (key, '=' :: rest) =>
      let (value, rest) ← readValue (2 * rest.length + 1) maxDepth (skip rest)
      return (.pair key value, rest)
    | _ => none

/-- Reads lines with at most one statement each. The fuel bounds the number of lines. -/
def readStatements : (fuel : Nat) → List Char → Option (List Statement)
  | _, [] => some []
  | 0, _ => none
  | fuel + 1, cs =>
    match endOfLine? cs with
    | some rest => readStatements fuel rest
    | none => do
      let (statement, rest) ← readStatement (skip cs)
      let statements ← readStatements fuel (← endOfLine? rest)
      return statement :: statements

/-- What follows the mark of the byte order, which a text may start with. -/
def afterMark : List Char → List Char
  | '\uFEFF' :: rest => rest
  | cs => cs

/-- Reads a text. Every line takes up a character of its own, so that the fuel suffices. -/
def read? (s : String) : Option Toml := do
  let cs := afterMark s.toList
  ofStatements? (← readStatements (cs.length + 1) cs)

end HeaderBindings.Toml
