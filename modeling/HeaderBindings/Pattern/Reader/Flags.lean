import HeaderBindings.Pattern.CharSet.Folding
import HeaderBindings.Pattern.Property
import HeaderBindings.Pattern.Syntax

/-!
# Flags of patterns

The flags that are in force while a pattern is read, and how they act on the sets of characters that
are read. Inline flags such as `(?i-s)` change them.
-/

namespace HeaderBindings.Pattern.Reader

open HeaderBindings.Text (isBlank)

structure Flags where
  ignoreCase : Bool := false
  multiLine : Bool := false
  dotMatchesNewline : Bool := false
  swapGreed : Bool := false
  unicode : Bool := true
  ignoreBlanks : Bool := false
  crlf : Bool := false
  deriving Repr, DecidableEq

/-- Drops blanks, and comments from `#` to the end of the line. -/
def dropBlanks (inComment : Bool) : List Char → List Char
  | [] => []
  | c :: cs =>
    if inComment then dropBlanks (c ≠ '\n') cs
    else if isBlank c then dropBlanks false cs
    else if c = '#' then dropBlanks true cs
    else c :: cs

/-- What follows the blanks that do not count under the flags. -/
def Flags.skip (f : Flags) (cs : List Char) : List Char :=
  if f.ignoreBlanks then dropBlanks false cs else cs

/-- What decides, after an item of a class and a hyphen, whether the hyphen makes a range: the next
character that counts, where a comment counts by its first character that is no blank. -/
def Flags.afterHyphen? (f : Flags) (cs : List Char) : Option Char :=
  if f.ignoreBlanks then
    match cs.dropWhile isBlank with
    | '#' :: comment => (comment.dropWhile isBlank).head?
    | cs => cs.head?
  else cs.head?

def Flags.word (f : Flags) : CharSet := if f.unicode then Property.word else Property.asciiWord

/-- The complement, if it may be taken. -/
def Flags.compl? (f : Flags) (s : CharSet) : Option CharSet :=
  -- without the flag, classes range over bytes, and it would hold some that are no characters
  if f.unicode then some s.compl else none

def Flags.negate? (f : Flags) (negated : Bool) (s : CharSet) : Option CharSet :=
  if negated then f.compl? s else some s

def Flags.fold (f : Flags) (s : CharSet) : CharSet :=
  if f.ignoreCase then if f.unicode then s.fold else s.foldAscii else s

def Flags.set? (f : Flags) (value : Bool) : Char → Option Flags
  | 'i' => some { f with ignoreCase := value }
  | 'm' => some { f with multiLine := value }
  | 's' => some { f with dotMatchesNewline := value }
  | 'U' => some { f with swapGreed := value }
  | 'u' => some { f with unicode := value }
  | 'R' => some { f with crlf := value }
  | 'x' => some { f with ignoreBlanks := value }
  | _ => none

/-- Applies inline flags; a hyphen, which may not come last, switches the later ones off. -/
def applyFlags (f : Flags) (negated : Bool) (seen : List Char) : List Char → Option Flags
  | [] => if seen.head? = some '-' then none else some f
  | c :: cs =>
    if seen.contains c then none
    else if c = '-' then applyFlags f true (c :: seen) cs
    else do applyFlags (← f.set? (!negated) c) negated (c :: seen) cs

end HeaderBindings.Pattern.Reader
