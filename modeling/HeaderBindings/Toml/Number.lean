import HeaderBindings.Text.Word
import HeaderBindings.Toml.Basic

/-!
# Numbers of TOML

Integers are signed 64-bit words in decimal, or in one of three other radices without a sign. Floats
have a fraction or an exponent. Single underscores may stand between digits.
-/

namespace HeaderBindings.Toml

open HeaderBindings.Text (isDigit digitIn? number? signed?)

/-- Reads digits that satisfy `p`, with single underscores between them. The digits are returned
without the underscores; a digit is needed at the start and after every underscore. -/
def readDigits (p : Char → Bool) : List Char → Option (List Char × List Char)
  | [] => none
  | '_' :: _ => none
  | [c] => if p c then some ([c], []) else none
  | c :: '_' :: rest =>
    if p c then do
      let (digits, rest) ← readDigits p rest
      return (c :: digits, rest)
    else none
  | c :: d :: rest =>
    if p c then
      if p d then do
        let (digits, rest) ← readDigits p (d :: rest)
        return (c :: digits, rest)
      else some ([c], d :: rest)
    else none

/-- Reads the digits of a decimal number, which have no leading zero. -/
def readWhole (cs : List Char) : Option (List Char × List Char) :=
  match cs with
  | '0' :: rest => some (['0'], rest)
  | cs => readDigits isDigit cs

def splitSign : List Char → List Char × List Char
  | '+' :: rest => (['+'], rest)
  | '-' :: rest => (['-'], rest)
  | rest => ([], rest)

/-! ### Integers -/

def readInRadix (radix : Nat) (cs : List Char) : Option (Toml × List Char) := do
  let (digits, rest) ← readDigits (fun c => (digitIn? radix c).isSome) cs
  return (.integer (← signed? false (← number? radix digits)), rest)

def readInteger (cs : List Char) : Option (Toml × List Char) :=
  match cs with
  | '0' :: 'x' :: rest => readInRadix 16 rest
  | '0' :: 'o' :: rest => readInRadix 8 rest
  | '0' :: 'b' :: rest => readInRadix 2 rest
  | cs => do
    let (sign, rest) := splitSign cs
    let (digits, rest) ← readWhole rest
    return (.integer (← signed? (sign = ['-']) (← number? 10 digits)), rest)

/-! ### Floats -/

/-- The least number that is rounded to infinity: 2^1024 - 2^970, half a unit above the largest
double. -/
def overflowBound : Nat := Nat.pow 2 1024 - Nat.pow 2 970

/-- Whether `n * 10 ^ e` is rounded to infinity. -/
def overflows (n : Nat) (e : Int) : Bool :=
  -- `n` is at least `10 ^ (k - 1)` and less than `10 ^ k`, which settles most cases
  let k : Int := (Nat.toDigits 10 n).length
  if n = 0 || k + e < 309 then false
  else if 310 < k + e then true
  else if 0 ≤ e then overflowBound ≤ n * Nat.pow 10 e.toNat
  else overflowBound * Nat.pow 10 (-e).toNat ≤ n

def readFraction : List Char → Option (List Char × List Char)
  | '.' :: rest => readDigits isDigit rest
  | _ => none

def readExponent : List Char → Option (Int × List Char)
  | c :: rest =>
    if c = 'e' || c = 'E' then do
      let (sign, rest) := splitSign rest
      let (digits, rest) ← readDigits isDigit rest
      let n ← number? 10 digits
      return (if sign = ['-'] then -n else n, rest)
    else none
  | [] => none

/-- Reads infinity or the value that is no number. -/
def readSpecial (cs : List Char) : Option (Toml × List Char) :=
  match splitSign cs with
  | (sign, 'i' :: 'n' :: 'f' :: rest) =>
    some (.float (String.ofList (sign ++ ['i', 'n', 'f'])), rest)
  | (sign, 'n' :: 'a' :: 'n' :: rest) =>
    some (.float (String.ofList (sign ++ ['n', 'a', 'n'])), rest)
  | _ => none

/-- Reads a float: a fraction, an exponent or both follow the whole digits. -/
def readFloat (cs : List Char) : Option (Toml × List Char) := do
  let (sign, rest) := splitSign cs
  let (whole, rest) ← readWhole rest
  let (fraction, exponent, rest) ←
    match readFraction rest with
    | some (fraction, rest) =>
      match rest with
      | 'e' :: _ | 'E' :: _ => do
        let (exponent, rest) ← readExponent rest
        pure (fraction, exponent, rest)
      | rest => pure (fraction, 0, rest)
    | none => do
      let (exponent, rest) ← readExponent rest
      pure ([], exponent, rest)
  let n ← number? 10 (whole ++ fraction)
  -- only positive infinity is refused
  if sign ≠ ['-'] && overflows n (exponent - fraction.length) then none
  else return (.float (String.ofList (cs.take (cs.length - rest.length))), rest)

end HeaderBindings.Toml
