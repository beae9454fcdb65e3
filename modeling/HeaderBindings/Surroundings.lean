import HeaderBindings.AccessError
import HeaderBindings.Flags
import HeaderBindings.Text.Utf8

/-!
# Surroundings of a run

What a run sees of the machine: files, variables, the output of tools, and what the platform adds to
symbols.
-/

namespace HeaderBindings

/-- The surroundings of a run. -/
structure Surroundings where
  read : String → Except AccessError (List UInt8)
  isFile : String → Bool
  valueOf? : String → Option String
  /-- The output of a tool that is called with some arguments and succeeds. -/
  output? : String → List String → Option (List UInt8)
  /-- The character that the platform puts in front of symbols. Mach-O puts an underscore there, and
  other formats nothing. -/
  decoration : Option Char := none

namespace Surroundings

def readText (s : Surroundings) (path : String) : Except AccessError String := do
  match Text.decode? (← s.read path) with
  | some text => .ok text
  | none => .error .notText

/-- The output of a tool as text. Bytes that are no UTF-8 are replaced. -/
def runTool (s : Surroundings) : Flags.Runner := fun tool args =>
  (s.output? tool args).map Text.decodeLossy

def expand (s : Surroundings) (flags : String) : String :=
  Flags.expand s.runTool s.valueOf? flags

end Surroundings

end HeaderBindings
