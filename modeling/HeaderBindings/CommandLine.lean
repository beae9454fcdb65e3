import HeaderBindings.CommandLine.Arguments
import HeaderBindings.Generation

/-!
# The command line

What the program answers to its arguments: a text and an exit code, and for the symbol table a file.
-/

namespace HeaderBindings.CommandLine

/-- What the program says in the end. -/
structure Answer where
  exitCode : Nat
  output : String := ""
  failure : Option String := none
  warnings : List String := []
  deriving Repr, DecidableEq

/-- What the program does in the end. -/
inductive Outcome where
  | done (a : Answer)
  /-- Writes a file, and answers according to how that went. -/
  | write (path : String) (content : List UInt8) (answer : Except AccessError Unit → Answer)

def misuse : Answer := { exitCode := 2 }

def failed (message : String) (warnings : List String) : Answer :=
  { exitCode := 1, failure := some message, warnings }

def writtenText (g : Generation) (path : String) : String :=
  "Wrote " ++ g.table.size.repr ++ " symbols for " ++ g.config.name ++ " to " ++ path ++ "\n"

def warnings (g : Generation) : List String := g.session.skipped.map SkippedDecl.message

def writeTable (g : Generation) (path : String) : Outcome :=
  .write path (Text.encode g.table.fileContent) fun
    | .ok () => { exitCode := 0, output := writtenText g path, warnings := warnings g }
    | .error e =>
      failed ("Failed to write " ++ path ++ ": " ++ (ConfigError.access e).message) (warnings g)

def printListings (g : Generation) : Outcome :=
  .done { exitCode := 0, output := ofLines g.listings, warnings := warnings g }

/-- Runs over the headers of a configuration, and goes on with the result. -/
def withGeneration (s : Surroundings) (config : String) (next : Generation → Outcome) : Outcome :=
  match Generation.generate s (Frontend.loadHeader s) config with
  | .ok g => next g
  | .error e => .done (failed (e.message FrontendError.message) [])

/-- What a request leads to. -/
def Request.outcome (s : Surroundings) : Request → Outcome
  | symg config output =>
    withGeneration s config fun g =>
      writeTable g (output.getD (Generation.symbolFile config))
  | dump config => withGeneration s config printListings
  | help topic => .done { exitCode := 0, output := topic.text }
  | version => .done { exitCode := 0, output := CommandLine.version }
  | misuse => .done CommandLine.misuse

end HeaderBindings.CommandLine
