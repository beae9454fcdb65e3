import HeaderBindings.Text.Blank
import HeaderBindings.Text.Word

/-!
# Integer and character literals of C

A literal is read to the signed 64-bit value that it denotes: `42`, `0x2Au`, `052`, `0b101`,
`1'000`, `100UL`, `'a'`, `'\n'`. One that does not fit into 64 signed bits has no value.
-/

namespace HeaderBindings.IntLiteral

/-- Reads a magnitude: at least one digit, with a plus sign allowed in front of the first one. -/
def readMagnitude (radix : Nat) : List Char → Option Nat
  | '+' :: cs => Text.number? radix cs
  | cs => Text.number? radix cs

/-- The letters of which a suffix such as `ULL` consists. -/
def isSuffixLetter (c : Char) : Bool := c = 'u' || c = 'U' || c = 'l' || c = 'L'

def dropSuffix (cs : List Char) : List Char := (cs.reverse.dropWhile isSuffixLetter).reverse

/-- The radix that the prefix of a literal announces, and what follows the prefix. -/
def splitRadix : List Char → Nat × List Char
  | '0' :: 'x' :: cs => (16, cs)
  | '0' :: 'X' :: cs => (16, cs)
  | '0' :: 'b' :: cs => (2, cs)
  | '0' :: 'B' :: cs => (2, cs)
  -- a leading zero announces octal digits, unless it is the whole literal
  | '0' :: c :: cs => (8, c :: cs)
  | cs => (10, cs)

/-- The value of an integer literal from which the blanks around it are removed. -/
def readInteger (cs : List Char) : Option Int64 := do
  let (radix, digits) := splitRadix (dropSuffix cs)
  -- apostrophes separate digits and carry no value
  let n ← readMagnitude radix (digits.filter (· ≠ '\''))
  Text.signed? false n

/-- What stands between the two quotes of a character literal. -/
def quoted? : List Char → Option (List Char)
  | '\'' :: cs => if cs.getLast? = some '\'' then some cs.dropLast else none
  | _ => none

def escape? : Char → Option Char
  | 'n' => some '\n'
  | 't' => some '\t'
  | 'r' => some '\r'
  | '0' => some '\x00'
  | '\\' => some '\\'
  | '\'' => some '\''
  | '"' => some '"'
  | _ => none

/-- The code point of the one character between the quotes of a character literal. -/
def readCharacter : List Char → Option Int64
  | ['\\'] => none
  | ['\\', c] => (escape? c).map fun e => Int64.ofNat e.toNat
  | [c] => some (Int64.ofNat c.toNat)
  | _ => none

/-- The value of a literal, with blanks allowed around it. -/
def value? (text : String) : Option Int64 :=
  let cs := Text.trimChars text.toList
  match quoted? cs with
  | some body => readCharacter body
  | none => readInteger cs

end HeaderBindings.IntLiteral
