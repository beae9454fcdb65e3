import HeaderBindings.Cursor.Lowering
import HeaderBindings.Cursor.Reader
import HeaderBindings.Surroundings
import HeaderBindings.Text.Quoted

/-!
# Reading headers

A header is handed to the compiler together with a command line. The compiler's report is lowered to
declarations, unless it holds errors.
-/

namespace HeaderBindings

structure FrontendOptions where
  /-- Whether headers are read as C++ instead of C. -/
  cplusplus : Bool := false
  arguments : List String := []
  deriving Repr, DecidableEq

def FrontendOptions.commandLine (o : FrontendOptions) : List String :=
  (if o.cplusplus then ["-x", "c++", "-std=c++17"] else ["-x", "c"]) ++ o.arguments

/-- What is handed to the compiler as a text that ends at its first NUL. -/
inductive FrontendInput where
  | path | filename | source | argument
  deriving Repr, DecidableEq

def FrontendInput.name : FrontendInput → String
  | path => "path"
  | filename => "filename"
  | source => "source"
  | argument => "argument"

inductive FrontendError where
  | malformedPath (bytes : List UInt8)
  /-- An input holds a NUL, with so many bytes in front of it. -/
  | nul (input : FrontendInput) (position : Nat)
  | noReport (path : String)
  | errors (path : String) (messages : List String)
  /-- The report describes records that contain themselves without end. -/
  | endless (path : String)
  deriving Repr, DecidableEq

def FrontendError.message : FrontendError → String
  | malformedPath bytes => "Invalid path: " ++ Text.quoted bytes
  | nul input position =>
    "Invalid " ++ input.name ++ ": nul byte found in provided data at position: " ++ position.repr
  | noReport path => "Failed to parse " ++ path
  | errors path messages => "Parse errors in " ++ path ++ ":\n" ++ Text.joined "\n" messages
  | endless path => "Records without end in " ++ path

namespace Frontend

/-- The number of bytes in front of the first NUL of a text, if there is one. -/
def nulPosition? (s : String) : Option Nat :=
  if '\x00' ∈ s.toList then
    some (String.ofList (s.toList.takeWhile (· ≠ '\x00'))).utf8ByteSize
  else none

def checkNul (input : FrontendInput) (s : String) : Except FrontendError Unit :=
  match nulPosition? s with
  | some position => .error (.nul input position)
  | none => .ok ()

/-- What remarks show of a command line: its arguments, and the setting under which bodies of
functions are skipped. -/
def shownCommandLine (o : FrontendOptions) : String := Text.joined " " o.commandLine ++ " /64"

def lower (path : String) (report : CursorReport) : Except FrontendError HeaderUnit :=
  match report.diagnostics.filter (·.isError) with
  | [] =>
    match report.tree.decls? with
    | some decls => .ok ⟨path, decls⟩
    | none => .error (.endless path)
  | errors => .error (.errors path (errors.map (·.text)))

/-- Reads a header whose content is given, if there is any. -/
def readContent (o : FrontendOptions) (path : String) (content? : Option String) :
    Except FrontendError HeaderUnit := do
  o.commandLine.forM (checkNul .argument)
  match content?.bind (CursorReport.read? path (shownCommandLine o)) with
  | some report => lower path report
  | none => .error (.noReport path)

/-- Reads a text as if it stood in the file `path`. -/
def readHeader (o : FrontendOptions) (path source : String) : Except FrontendError HeaderUnit := do
  checkNul .filename path
  checkNul .source source
  readContent o path (some source)

def loadHeader (s : Surroundings) (o : FrontendOptions) (path : String) :
    Except FrontendError HeaderUnit := do
  checkNul .path path
  readContent o path (s.readText path).toOption

/-- Reads a file whose path is given by its bytes. -/
def loadHeaderAt (s : Surroundings) (o : FrontendOptions) (path : List UInt8) :
    Except FrontendError HeaderUnit :=
  match Text.decode? path with
  | some path => loadHeader s o path
  | none => .error (.malformedPath path)

end Frontend

end HeaderBindings
