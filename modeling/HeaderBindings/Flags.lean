import HeaderBindings.Text.Blank

/-!
# Compiler flags

Flags are written with two kinds of markers: `$(tool args)`, which stands for the output of a tool,
and `$NAME` or `${NAME}`, which stand for the value of a variable. Tool calls are replaced first,
and variables in the result of that; what a variable stands for is not looked at again.

Expansion comes in two forms. `expand` takes what tools give and what variables stand for as
functions; `expandM` asks for both in a monad, and so tells when and how often it asks.

From the flags that result, `includeDirs` takes the directories in which headers are looked for.
-/

namespace HeaderBindings.Flags

open HeaderBindings.Text (wordsChars trimChars joined afterStart?)

/-- A piece of a text with markers: a character, or what a marker holds. -/
inductive Piece (α : Type) where
  | char (c : Char)
  | marker (a : α)
  deriving Repr, DecidableEq

/-- Cuts a text into pieces after passing over the first `skip` characters. `read?` reads a marker
at the start of a text and tells how many characters it takes up besides the first one. -/
def piecesFrom {α : Type} (read? : List Char → Option (α × Nat)) : Nat → List Char → List (Piece α)
  | _, [] => []
  | skip + 1, _ :: cs => piecesFrom read? skip cs
  | 0, c :: cs =>
    match read? (c :: cs) with
    | some (a, more) => .marker a :: piecesFrom read? more cs
    | none => .char c :: piecesFrom read? 0 cs

def pieces {α : Type} (read? : List Char → Option (α × Nat)) (cs : List Char) : List (Piece α) :=
  piecesFrom read? 0 cs

/-- The text in which every marker is replaced by what it stands for. -/
def fill {α : Type} (meaning : α → List Char) (ps : List (Piece α)) : List Char :=
  ps.flatMap fun
    | .char c => [c]
    | .marker a => meaning a

/-! ### Tool calls -/

structure ToolCall where
  tool : String
  args : List String
  deriving Repr, DecidableEq

def allowedTools : List String := ["pkg-config", "llvm-config"]

/-- The call that a command line asks for, if its tool may be called. -/
def ToolCall.ofLine? (line : List Char) : Option ToolCall :=
  match (wordsChars line).map String.ofList with
  | [] => none
  | tool :: args => if tool ∈ allowedTools then some ⟨tool, args⟩ else none

/-- Reads `$(` and a command line up to the next closing parenthesis. The line is not empty. -/
def commandLine? : List Char → Option (List Char × Nat)
  | '$' :: '(' :: cs =>
    let line := cs.takeWhile (· ≠ ')')
    if line ≠ [] ∧ line.length < cs.length then some (line, line.length + 2) else none
  | _ => none

def commandPieces (text : String) : List (Piece (List Char)) := pieces commandLine? text.toList

/-- The calls that a text asks for, in order. -/
def toolCalls (text : String) : List ToolCall :=
  (commandPieces text).filterMap fun
    | .char _ => none
    | .marker line => ToolCall.ofLine? line

/-- What runs a tool; there is no output if that fails. -/
abbrev Runner := String → List String → Option String

/-- What a command line stands for: the words of the output, with single blanks between them. -/
def commandText (run : Runner) (line : List Char) : List Char :=
  -- a command that may not be called, or that fails, stands for nothing
  match ToolCall.ofLine? line with
  | none => []
  | some call =>
    match run call.tool call.args with
    | none => []
    | some output => (joined " " (Text.words output)).toList

/-! ### Variables -/

def isNameStart (c : Char) : Bool :=
  ('A' ≤ c && c ≤ 'Z') || ('a' ≤ c && c ≤ 'z') || c = '_'

def isNameChar (c : Char) : Bool := isNameStart c || ('0' ≤ c && c ≤ '9')

def name? (cs : List Char) : Option (List Char) :=
  match cs with
  | c :: rest => if isNameStart c then some (c :: rest.takeWhile isNameChar) else none
  | [] => none

/-- Reads `$NAME`, where the name extends as far as it can, or `${NAME}`. -/
def reference? : List Char → Option (String × Nat)
  | '$' :: '\x7b' :: cs => do
    let name ← name? cs
    if (cs.drop name.length).head? = some '\x7d' then
      return (String.ofList name, name.length + 2)
    else none
  | '$' :: cs => do
    let name ← name? cs
    return (String.ofList name, name.length)
  | _ => none

/-! ### Expansion -/

/-- The pieces of a text once its tool calls are replaced. -/
def referencePieces (run : Runner) (text : String) : List (Piece String) :=
  pieces reference? (fill (commandText run) (commandPieces text))

/-- The variables that are looked up, in order. -/
def references (run : Runner) (text : String) : List String :=
  (referencePieces run text).filterMap fun
    | .char _ => none
    | .marker name => some name

/-- The text with all markers replaced, without the blanks at its ends. A variable that has no value
stands for nothing. -/
def expand (run : Runner) (valueOf? : String → Option String) (text : String) : String :=
  String.ofList (trimChars
    (fill (fun name => ((valueOf? name).getD "").toList) (referencePieces run text)))

/-! ### Expansion with effects -/

section Effects

variable {m : Type → Type} [Monad m] {α : Type}

/-- The text in which every marker is replaced by what it stands for, where finding this out has
effects. -/
def fillM (meaning : α → m (List Char)) : List (Piece α) → m (List Char)
  | [] => return []
  | .char c :: ps => return c :: (← fillM meaning ps)
  | .marker a :: ps => return (← meaning a) ++ (← fillM meaning ps)

def commandTextM (run : String → List String → m (Option String)) (line : List Char) :
    m (List Char) :=
  match ToolCall.ofLine? line with
  | none => return []
  | some call => do
    match ← run call.tool call.args with
    | none => return []
    | some output => return (joined " " (Text.words output)).toList

def valueTextM (valueOf? : String → m (Option String)) (name : String) : m (List Char) :=
  return ((← valueOf? name).getD "").toList

/-- Expansion where running a tool and looking up a variable have effects: all tools are run first,
and the variables are looked up then. -/
def expandM (run : String → List String → m (Option String)) (valueOf? : String → m (Option String))
    (text : String) : m String := do
  let replaced ← fillM (commandTextM run) (commandPieces text)
  let shown ← fillM (valueTextM valueOf?) (pieces reference? replaced)
  return String.ofList (trimChars shown)

end Effects

/-- What an expansion does besides making a text. -/
inductive Event where
  | called (call : ToolCall)
  | lookedUp (name : String)
  deriving Repr, DecidableEq

/-- Runs a tool and logs the call. -/
def runLogged (run : Runner) (tool : String) (args : List String) :
    StateM (List Event) (Option String) := do
  modify (· ++ [.called ⟨tool, args⟩])
  return run tool args

/-- Looks up a variable and logs its name. -/
def lookUpLogged (valueOf? : String → Option String) (name : String) :
    StateM (List Event) (Option String) := do
  modify (· ++ [.lookedUp name])
  return valueOf? name

/-- The expansion of a text, and what is called and looked up on the way. -/
def expandLogged (run : Runner) (valueOf? : String → Option String) (text : String) :
    String × List Event :=
  expandM (runLogged run) (lookUpLogged valueOf?) text []

/-! ### Include directories -/

/-- The directories that flags name by `-I` or `-isystem`, in order. -/
def includeDirs : List String → List String
  | [] => []
  | [flag] => (afterStart? "-I" flag).toList
  | flag :: next :: rest =>
    if flag = "-I" ∨ flag = "-isystem" then next :: includeDirs rest
    else (afterStart? "-I" flag).toList ++ includeDirs (next :: rest)

end HeaderBindings.Flags
