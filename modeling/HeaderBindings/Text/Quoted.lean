import HeaderBindings.Pattern.Property.Latest
import HeaderBindings.Text.Utf8

/-!
# Quoted bytes

How messages show names that may be no text: in double quotes, with escapes for quotes and
backslashes, for characters that would not be visible, and for bytes that are no UTF-8.
-/

namespace HeaderBindings.Text

open HeaderBindings.Pattern.Property (visible)

def quotedChar (c : Char) : List Char :=
  match c with
  | '\x00' => ['\\', '0']
  | '\t' => ['\\', 't']
  | '\r' => ['\\', 'r']
  | '\n' => ['\\', 'n']
  | '"' => ['\\', '"']
  | '\\' => ['\\', '\\']
  | c =>
    if visible.contains c then [c]
    else ['\\', 'u', '\x7b'] ++ Nat.toDigits 16 c.toNat ++ ['\x7d']

/-- A byte inside of quotes that belongs to no character. -/
def quotedByte (b : UInt8) : List Char :=
  ['\\', 'x'] ++ (Nat.toDigits 16 b.toNat).map Char.toUpper

def Utf8Part.quoted : Utf8Part → List Char
  | char c => quotedChar c
  | malformed bytes => bytes.flatMap quotedByte

def quoted (bytes : List UInt8) : String :=
  String.ofList (['"'] ++ (utf8Parts bytes).flatMap Utf8Part.quoted ++ ['"'])

end HeaderBindings.Text
