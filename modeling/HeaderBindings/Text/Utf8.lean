/-!
# UTF-8

Bytes as text. Bytes that are no UTF-8 either make a file unreadable (`decode?`) or are replaced,
one replacement character for each longest part of a character (`decodeLossy`).
-/

namespace HeaderBindings.Text

/-- What the first byte of a character announces. -/
structure Lead where
  /-- The number of bytes that follow. -/
  more : Nat
  /-- The bits of the code that the first byte holds. -/
  bits : Nat
  /-- The least byte that may come second. -/
  lo : Nat := 0x80
  /-- The greatest byte that may come second. -/
  hi : Nat := 0xBF
  deriving Repr, DecidableEq

/-- What a byte announces as the first one of a character. -/
def lead? (b : UInt8) : Option Lead :=
  let n := b.toNat
  if n < 0x80 then some { more := 0, bits := n }
  else if n < 0xC2 then none
  else if n < 0xE0 then some { more := 1, bits := n - 0xC0 }
  -- the bounds of the second byte exclude long spellings, surrogates and codes above the last one
  else if n < 0xF0 then
    some { more := 2, bits := n - 0xE0, lo := if n = 0xE0 then 0xA0 else 0x80,
           hi := if n = 0xED then 0x9F else 0xBF }
  else if n < 0xF5 then
    some { more := 3, bits := n - 0xF0, lo := if n = 0xF0 then 0x90 else 0x80,
           hi := if n = 0xF4 then 0x8F else 0xBF }
  else none

/-- The bytes at the start of a text that continue a character, at most `n` of them. The first one
lies between the given bounds. -/
def continuation (lo hi : Nat) : Nat → List UInt8 → List UInt8
  | n + 1, b :: bs =>
    if lo ≤ b.toNat ∧ b.toNat ≤ hi then b :: continuation 0x80 0xBF n bs else []
  | _, _ => []

/-- A part of a sequence of bytes: a character, or bytes that belong to none. -/
inductive Utf8Part where
  | char (c : Char)
  | malformed (bytes : List UInt8)
  deriving Repr, DecidableEq

/-- The part at the start of a sequence of bytes, and how many bytes it takes up besides the first
one. -/
def utf8Part (b : UInt8) (bs : List UInt8) : Utf8Part × Nat :=
  match lead? b with
  | none => (.malformed [b], 0)
  | some lead =>
    let tail := continuation lead.lo lead.hi lead.more bs
    if tail.length = lead.more then
      (.char (Char.ofNat (tail.foldl (fun n b => n * 64 + (b.toNat - 0x80)) lead.bits)),
        tail.length)
    else (.malformed (b :: tail), tail.length)

/-- Cuts bytes into parts after passing over the first `skip` of them. -/
def utf8PartsFrom : (skip : Nat) → List UInt8 → List Utf8Part
  | _, [] => []
  | skip + 1, _ :: bs => utf8PartsFrom skip bs
  | 0, b :: bs =>
    let (part, more) := utf8Part b bs
    part :: utf8PartsFrom more bs

def utf8Parts (bytes : List UInt8) : List Utf8Part := utf8PartsFrom 0 bytes

def Utf8Part.char? : Utf8Part → Option Char
  | char c => some c
  | malformed _ => none

/-- The text that bytes spell, if they are UTF-8 throughout. -/
def decode? (bytes : List UInt8) : Option String :=
  ((utf8Parts bytes).mapM Utf8Part.char?).map String.ofList

/-- The text that bytes spell, with replacement characters for what is no UTF-8. -/
def decodeLossy (bytes : List UInt8) : String :=
  String.ofList ((utf8Parts bytes).map fun part => part.char?.getD '\uFFFD')

def encode (s : String) : List UInt8 := s.toUTF8.toList

end HeaderBindings.Text
