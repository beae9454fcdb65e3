import HeaderBindings.Header.IntLiteral

/-!
# Constant expressions

The expressions that give array lengths and enumerators: literals, names of earlier enumerators,
parentheses and negation. Values are signed 64-bit words, and a negation that leaves the range has
no value.
-/

namespace HeaderBindings

/-- A constant expression, with literals as they are spelled. -/
inductive Constant where
  | literal (text : String)
  | name (ident : String)
  | paren (inner : Constant)
  | neg (inner : Constant)
  deriving Repr, DecidableEq

namespace Constant

/-- The literal that spells a value in decimal. -/
def ofInt64 (n : Int64) : Constant := .literal n.toInt.repr

def spelling : Constant → String
  | literal text => text
  | name ident => ident
  | paren inner => "(" ++ inner.spelling ++ ")"
  | neg inner => "-" ++ inner.spelling

/-- The negation of a word, unless it falls outside the signed range. -/
def negate? (n : Int64) : Option Int64 := if n = Int64.minValue then none else some (-n)

/-- The value of an expression whose names have the values that `env` gives. -/
def eval? (env : String → Option Int64) : Constant → Option Int64
  | literal text => IntLiteral.value? text
  | name ident => env ident
  | paren inner => inner.eval? env
  | neg inner => (inner.eval? env).bind negate?

/-- The value of an expression that may hold no names. -/
def closedValue? : Constant → Option Int64 := eval? fun _ => none

end Constant

end HeaderBindings
