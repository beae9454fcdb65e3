import HeaderBindings.CommandLine.Help
import HeaderBindings.Config

/-!
# Arguments of the command line

Arguments are read from left to right: options of the program, a command, and options of the
command. Single letters may be written together behind one dash, and a value directly behind its
option. A request for help counts unless something before it is wrong.
-/

namespace HeaderBindings.CommandLine

inductive ValueOption where
  | config | output
  deriving Repr, DecidableEq

/-- What the program is asked for. -/
inductive Request where
  /-- Writes the symbol table for a configuration, next to it or at another path. -/
  | symg (config : String) (output : Option String)
  | dump (config : String)
  | help (topic : Topic)
  | version
  | misuse
  deriving Repr, DecidableEq

def Request.config? : Request → Option String
  | symg config _ => some config
  | dump config => some config
  | _ => none

/-- What a single argument says. -/
inductive Word where
  /-- An option without effect on the answer. -/
  | quiet
  | help
  | version
  | value (option : ValueOption) (text : String)
  /-- An option whose value is the next argument. -/
  | option (option : ValueOption)
  /-- The argument after which there are no options. -/
  | stop
  /-- An argument that is no option. -/
  | plain
  | unknown
  deriving Repr, DecidableEq

def optionOfLetter? (verb? : Option Verb) (c : Char) : Option ValueOption :=
  match verb?, c with
  | some _, 'c' => some .config
  | some .symg, 'o' => some .output
  | _, _ => none

def optionOfName? (verb? : Option Verb) (name : List Char) : Option ValueOption :=
  if verb?.isSome ∧ name = "config".toList then some .config
  else if verb? = some .symg ∧ name = "output".toList then some .output
  else none

/-- What letters behind a dash say. An equals sign in front of a value is left out. -/
def ofLetters (verb? : Option Verb) : List Char → Word
  | [] => .quiet
  | 'v' :: rest => ofLetters verb? rest
  | 'h' :: _ => .help
  | c :: rest =>
    match optionOfLetter? verb? c with
    | none => if c = 'V' ∧ verb? = none then .version else .unknown
    | some o =>
      match rest with
      | [] => .option o
      | '=' :: value => .value o (String.ofList value)
      | value => .value o (String.ofList value)

/-- What a name behind two dashes says, given a value behind an equals sign. -/
def ofName (verb? : Option Verb) (name : List Char) (value? : Option (List Char)) : Word :=
  match optionOfName? verb? name, value? with
  | some o, some value => .value o (String.ofList value)
  | some o, none => .option o
  | none, some _ => .unknown
  | none, none =>
    if name = "verbose".toList then .quiet
    else if name = "help".toList then .help
    else if name = "version".toList ∧ verb? = none then .version
    else .unknown

/-- What an argument says in front of the command, or among the options of one. -/
def Word.ofArgument (verb? : Option Verb) (argument : String) : Word :=
  match argument.toList with
  | ['-', '-'] => .stop
  | '-' :: '-' :: cs =>
    ofName verb? (cs.takeWhile (· ≠ '=')) (cs.dropWhile (· ≠ '=')).tail?
  | ['-'] => .plain
  | '-' :: cs => ofLetters verb? cs
  | _ => .plain

/-! ### Options of a command -/

structure Options where
  config : Option String := none
  output : Option String := none
  deriving Repr, DecidableEq

/-- Sets an option. It is given once, and its value is not empty. -/
def Options.set? (o : Options) (option : ValueOption) (value : String) : Option Options :=
  if value = "" then none
  else
    match option with
    | .config => if o.config.isSome then none else some { o with config := some value }
    | .output => if o.output.isSome then none else some { o with output := some value }

def Options.request (o : Options) : Verb → Request
  | .symg => .symg (o.config.getD Config.fileName) o.output
  | .dump => .dump (o.config.getD Config.fileName)

/-- Reads the options of a command. `waiting` is an option whose value has to come next. -/
def readOptions (verb : Verb) : Options → (waiting : Option ValueOption) → List String → Request
  | o, none, [] => o.request verb
  | _, some _, [] => .misuse
  | o, some option, argument :: rest =>
    match Word.ofArgument (some verb) argument with
    | .plain =>
      match o.set? option argument with
      | some o => readOptions verb o none rest
      | none => .misuse
    | _ => .misuse
  | o, none, argument :: rest =>
    match Word.ofArgument (some verb) argument with
    | .quiet => readOptions verb o none rest
    | .help => .help (.verb verb)
    | .value option text =>
      match o.set? option text with
      | some o => readOptions verb o none rest
      | none => .misuse
    | .option option => readOptions verb o (some option) rest
    | .stop => if rest = [] then o.request verb else .misuse
    | _ => .misuse

/-! ### All arguments -/

def verbOfName? : String → Option Verb
  | "symg" => some .symg
  | "dump" => some .dump
  | _ => none

/-- What is to be helped with, by the arguments of the command for help. -/
def helpRequest : List String → Request
  | [] => .help .program
  | [name] =>
    if name = "help" then .help .help
    else
      match verbOfName? name with
      | some verb => .help (.verb verb)
      | none => .misuse
  | _ => .misuse

def Request.ofArguments : List String → Request
  | [] => .misuse
  | argument :: rest =>
    match verbOfName? argument with
    | some verb => readOptions verb {} none rest
    | none =>
      if argument = "help" then helpRequest rest
      else
        match Word.ofArgument none argument with
        | .quiet => ofArguments rest
        | .help => .help .program
        | .version => .version
        | _ => .misuse

end HeaderBindings.CommandLine
