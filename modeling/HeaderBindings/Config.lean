import HeaderBindings.Path
import HeaderBindings.Surroundings
import HeaderBindings.SymbolTable
import HeaderBindings.Toml.Reader

/-!
# Configurations

A configuration names a library's headers, the flags with which they are read, and the rules for
target names. It is written in TOML: every setting has a default, and settings with other names are
ignored. Headers are looked for in the include directories of the flags.
-/

namespace HeaderBindings

/-- Why a configuration or a symbol table cannot be used. -/
inductive ConfigError where
  | access (cause : AccessError)
  | malformedToml
  | malformedJson
  | noHeaders
  | headersNotFound (headers : List String)
  deriving Repr, DecidableEq

def ConfigError.message : ConfigError → String
  | access cause => "Failed to access file: " ++ cause.message
  | malformedToml => "Failed to parse TOML config"
  | malformedJson => "Failed to parse JSON"
  | noHeaders => "No headers listed in \x60include\x60"
  | headersNotFound headers => "Headers not found: " ++ Text.joined ", " headers

structure Config where
  /-- The name of the package of bindings. -/
  name : String := ""
  /-- The flags with which headers are read; they name the include directories. -/
  cflags : String := ""
  /-- The headers, relative to an include directory. -/
  headers : List String := []
  libs : String := ""
  trimPrefixes : List String := []
  /-- The replacements of the prefixes, in the same order. -/
  replPrefixes : List String := []
  cplusplus : Bool := false
  /-- Target names by symbol. -/
  symbols : List (String × String) := []
  deriving Repr, DecidableEq

namespace Config

def fileName : String := "llbind.toml"

/-! ### Reading -/

/-- A setting of a table, or the default if the table has none. -/
def setting {α : Type} (table : Toml) (name : String) (read? : Toml → Option α) (default : α) :
    Option α :=
  match table.get? name with
  | some value => read? value
  | none => some default

def texts? (value : Toml) : Option (List String) := do
  (← value.elems?).mapM Toml.string?

/-- The name of the only entry of a date or time that is read as a table. -/
def datetimeKey : String := "$__toml_private_datetime"

/-- The entries of a table of texts. A date or time counts as a table of one. -/
def textsByName? : Toml → Option (List (String × String))
  | .table entries => entries.mapM fun e => e.2.string?.map (e.1, ·)
  | .datetime text => some [(datetimeKey, text)]
  | _ => none

def ofToml? (table : Toml) : Option Config := do
  return {
    name := ← setting table "name" Toml.string? ""
    cflags := ← setting table "cflags" Toml.string? ""
    headers := ← setting table "include" texts? []
    libs := ← setting table "libs" Toml.string? ""
    trimPrefixes := ← setting table "trim_prefixes" texts? []
    replPrefixes := ← setting table "repl_prefixes" texts? []
    cplusplus := ← setting table "cplusplus" Toml.boolean? false
    symbols := ← setting table "symbols" textsByName? [] }

def parse (text : String) : Except ConfigError Config :=
  match (Toml.read? text).bind ofToml? with
  | some config => .ok config
  | none => .error .malformedToml

def load (s : Surroundings) (path : String) : Except ConfigError Config := do
  parse (← (s.readText path).mapError .access)

/-! ### Changing -/

def addHeader (c : Config) (header : String) : Config :=
  { c with headers := c.headers ++ [header] }

def withCflags (c : Config) (cflags : String) : Config := { c with cflags }

/-! ### Flags and headers -/

def arguments (s : Surroundings) (c : Config) : List String := Text.words (s.expand c.cflags)

def includeDirs (s : Surroundings) (c : Config) : List String :=
  Flags.includeDirs (c.arguments s)

/-- The paths that a header may stand for. A header that is given by an absolute path is not looked
for anywhere else. -/
def candidates (dirs : List String) (header : String) : List String :=
  if Path.isAbsolute header then [header] else dirs.map (Path.join · header)

/-- The path of a header: the first candidate that is a file. -/
def locate? (isFile : String → Bool) (dirs : List String) (header : String) : Option String :=
  (candidates dirs header).find? isFile

def headerPaths (s : Surroundings) (c : Config) : Except ConfigError (List String) :=
  if c.headers = [] then .error .noHeaders
  else
    let path? := locate? s.isFile (c.includeDirs s)
    match c.headers.filter fun header => (path? header).isNone with
    | [] => .ok (c.headers.filterMap path?)
    | missing => .error (.headersNotFound missing)

end Config

namespace SymbolTable

/-- Reads a table, which has to be well-formed. -/
def parse (text : String) : Except ConfigError SymbolTable :=
  match read? text with
  | some table => .ok table
  | none => .error .malformedJson

def load (s : Surroundings) (path : String) : Except ConfigError SymbolTable := do
  parse (← (s.readText path).mapError .access)

end SymbolTable

end HeaderBindings
