import HeaderBindings.Text.Digit

/-!
# The lexemes of TOML

Blanks, line ends, comments and the four kinds of strings. Every reader takes up as much as it can
from the start of a text, and returns what is left.
-/

namespace HeaderBindings.Toml

/-- The blanks within a line. -/
def isBlank (c : Char) : Bool := c = ' ' || c = '\t'

def skip (cs : List Char) : List Char := cs.dropWhile isBlank

/-- What follows a line end: a line feed, or a carriage return together with one. -/
def lineEnd? : List Char → Option (List Char)
  | '\n' :: rest => some rest
  | '\r' :: '\n' :: rest => some rest
  | _ => none

/-- The characters that may stand in comments and, delimiters apart, in strings: no control
characters but the tab. -/
def isText (c : Char) : Bool := c = '\t' || (0x20 ≤ c.toNat && c ≠ '\x7F')

def skipComment : List Char → List Char
  | '#' :: rest => rest.dropWhile isText
  | cs => cs

/-- What follows the end of a line, which may be preceded by blanks and a comment. -/
def endOfLine? (cs : List Char) : Option (List Char) :=
  match skipComment (skip cs) with
  -- the end of the text ends the last line
  | [] => some []
  | rest => lineEnd? rest

/-- What follows blanks, comments and line ends. The fuel bounds the number of lines. -/
def skipLines : Nat → List Char → Option (List Char)
  | 0, cs => some cs
  | fuel + 1, cs =>
    match skip cs with
    | '#' :: rest =>
      -- a comment has to end with its line
      match lineEnd? (rest.dropWhile isText) with
      | some rest => skipLines fuel rest
      | none => none
    | '\n' :: rest => skipLines fuel rest
    | '\r' :: rest => (lineEnd? ('\r' :: rest)).bind (skipLines fuel)
    | rest => some rest

/-! ### Strings -/

def escape? : Char → Option Char
  | 'b' => some '\x08'
  | 't' => some '\t'
  | 'n' => some '\n'
  | 'f' => some '\x0C'
  | 'r' => some '\r'
  | '"' => some '"'
  | '\\' => some '\\'
  | _ => none

/-- The character whose code hexadecimal digits spell. Halves of surrogate pairs are no
characters. -/
def charOfCode? (digits : List Char) : Option Char := do
  let n ← Text.number? 16 digits
  if n.isValidChar then some (Char.ofNat n) else none

/-- Reads a string in double quotes on a single line, after its opening quote. -/
def readBasic : List Char → Option (List Char × List Char)
  | [] => none
  | '"' :: rest => some ([], rest)
  | '\\' :: 'u' :: a :: b :: c :: d :: rest => do
    let char ← charOfCode? [a, b, c, d]
    let (text, rest) ← readBasic rest
    return (char :: text, rest)
  | '\\' :: 'U' :: a :: b :: c :: d :: e :: f :: g :: h :: rest => do
    let char ← charOfCode? [a, b, c, d, e, f, g, h]
    let (text, rest) ← readBasic rest
    return (char :: text, rest)
  | '\\' :: e :: rest => do
    let char ← escape? e
    let (text, rest) ← readBasic rest
    return (char :: text, rest)
  | c :: rest =>
    if isText c then do
      let (text, rest) ← readBasic rest
      return (c :: text, rest)
    else none

def readLiteral (cs : List Char) : Option (List Char × List Char) :=
  let text := cs.takeWhile fun c => isText c && c ≠ '\''
  match cs.dropWhile fun c => isText c && c ≠ '\'' with
  | '\'' :: rest => some (text, rest)
  | _ => none

/-- What three quotes close: up to two more quotes after them still belong to the string. -/
def closeQuotes (quote : Char) : List Char → List Char × List Char
  | a :: b :: rest =>
    if a = quote ∧ b = quote then ([quote, quote], rest)
    else if a = quote then ([quote], b :: rest)
    else ([], a :: b :: rest)
  | [a] => if a = quote then ([quote], []) else ([], [a])
  | [] => ([], [])

/-- Whether a backslash in front of a text ends a line: only blanks stand between the two. -/
def endsLine (cs : List Char) : Bool := (lineEnd? (skip cs)).isSome

/-- Reads a string in three double quotes. After a backslash at the end of a line, `skipping` is
set, and all blanks and line ends are passed over. -/
def readBasicLines (skipping : Bool) : List Char → Option (List Char × List Char)
  | [] => none
  | '"' :: '"' :: '"' :: rest => some (closeQuotes '"' rest)
  | '\n' :: rest =>
    if skipping then readBasicLines true rest
    else do
      let (text, rest) ← readBasicLines false rest
      return ('\n' :: text, rest)
  | '\r' :: '\n' :: rest =>
    if skipping then readBasicLines true rest
    else do
      let (text, rest) ← readBasicLines false rest
      return ('\n' :: text, rest)
  | '\\' :: 'u' :: a :: b :: c :: d :: rest => do
    let char ← charOfCode? [a, b, c, d]
    let (text, rest) ← readBasicLines false rest
    return (char :: text, rest)
  | '\\' :: 'U' :: a :: b :: c :: d :: e :: f :: g :: h :: rest => do
    let char ← charOfCode? [a, b, c, d, e, f, g, h]
    let (text, rest) ← readBasicLines false rest
    return (char :: text, rest)
  | '\\' :: e :: rest =>
    if endsLine (e :: rest) then readBasicLines true (e :: rest)
    else do
      let char ← escape? e
      let (text, rest) ← readBasicLines false rest
      return (char :: text, rest)
  | c :: rest =>
    if skipping && isBlank c then readBasicLines true rest
    else if isText c then do
      let (text, rest) ← readBasicLines false rest
      return (c :: text, rest)
    else none

def readLiteralLines : List Char → Option (List Char × List Char)
  | [] => none
  | '\'' :: '\'' :: '\'' :: rest => some (closeQuotes '\'' rest)
  | '\r' :: '\n' :: rest => do
    let (text, rest) ← readLiteralLines rest
    return ('\n' :: text, rest)
  | c :: rest =>
    if c = '\n' || isText c then do
      let (text, rest) ← readLiteralLines rest
      return (c :: text, rest)
    else none

/-- What follows a line end that stands directly after three opening quotes. -/
def afterOpening (cs : List Char) : List Char := (lineEnd? cs).getD cs

def readString (cs : List Char) : Option (String × List Char) := do
  let (text, rest) ←
    match cs with
    | '"' :: '"' :: '"' :: rest => readBasicLines false (afterOpening rest)
    | '\'' :: '\'' :: '\'' :: rest => readLiteralLines (afterOpening rest)
    | '"' :: rest => readBasic rest
    | '\'' :: rest => readLiteral rest
    | _ => none
  return (String.ofList text, rest)

end HeaderBindings.Toml
