import HeaderBindings.Config
import HeaderBindings.Frontend
import HeaderBindings.Package.Listing
import HeaderBindings.Session.Walk

/-!
# Generation

A run over the headers of a configuration. Names come, in this order, from the configuration, from
the symbol table that an earlier run has left next to the configuration, and from the prefix rules.
-/

namespace HeaderBindings

/-- Why a run fails. `ε` is the type of errors in reading a header. -/
inductive GenerationError (ε : Type) where
  | config (path : String) (cause : ConfigError)
  | headers (cause : ConfigError)
  | symbolTable (path : String) (cause : ConfigError)
  | frontend (cause : ε)
  deriving Repr

def GenerationError.message {ε : Type} (shown : ε → String) : GenerationError ε → String
  | config path cause => "Failed to load " ++ path ++ ": " ++ cause.message
  | headers cause => cause.message
  | symbolTable path cause => "Failed to read " ++ path ++ ": " ++ cause.message
  | frontend cause => shown cause

namespace Generation

/-- The path of the symbol table next to a configuration. -/
def symbolFile (configPath : String) : String :=
  match Path.parent? configPath with
  | some dir => Path.join dir SymbolTable.fileName
  | none => SymbolTable.fileName

/-- What shapes the names of a run, on a platform with some decoration of symbols. -/
def sessionOptions (decoration : Option Char) (config : Config) (table : SymbolTable) :
    SessionOptions where
  trimPrefixes := config.trimPrefixes
  replPrefixes := config.replPrefixes
  -- of two targets of a symbol, that of the configuration counts
  overrides := .ofList (table.overrides ++ config.symbols)
  decoration := decoration

/-- What is settled before the first header is read. -/
structure Plan where
  config : Config
  headers : List String
  frontend : FrontendOptions
  session : SessionOptions

/-- The symbol table at a path; it is empty if there is no file. -/
def priorTable {ε : Type} (s : Surroundings) (path : String) :
    Except (GenerationError ε) SymbolTable :=
  if s.isFile path then (SymbolTable.load s path).mapError (.symbolTable path) else .ok {}

def plan {ε : Type} (s : Surroundings) (configPath : String) :
    Except (GenerationError ε) Plan := do
  let config ← (Config.load s configPath).mapError (.config configPath)
  let headers ← (config.headerPaths s).mapError .headers
  let table ← priorTable s (symbolFile configPath)
  return { config, headers
           frontend := ⟨config.cplusplus, config.arguments s⟩
           session := sessionOptions s.decoration config table }

abbrev HeaderReader (ε : Type) := FrontendOptions → String → Except ε HeaderUnit

def processAll {ε : Type} (read : String → Except ε HeaderUnit) :
    Session → List String → Except ε Session
  | session, [] => .ok session
  | session, header :: rest => do
    let unit ← read header
    processAll read (session.process unit) rest

/-- The headers that are read: all up to the first one that cannot be read. -/
def attempted {ε : Type} (read : String → Except ε HeaderUnit) : List String → List String
  | [] => []
  | header :: rest =>
    match read header with
    | .ok _ => header :: attempted read rest
    | .error _ => [header]

/-- The session after all headers of a plan. -/
def Plan.run {ε : Type} (read : HeaderReader ε) (p : Plan) :
    Except (GenerationError ε) Session :=
  (processAll (read p.frontend) (.start p.session) p.headers).mapError .frontend

end Generation

structure Generation where
  config : Config
  session : Session

namespace Generation

/-- Runs over the headers of the configuration at a path. -/
def generate {ε : Type} (s : Surroundings) (read : HeaderReader ε) (configPath : String) :
    Except (GenerationError ε) Generation := do
  let plan ← plan s configPath
  return ⟨plan.config, ← plan.run read⟩

def table (g : Generation) : SymbolTable := .ofIndex g.session.symbols

def listings (g : Generation) : List String := g.session.package.files.map PackageFile.listing

end Generation

end HeaderBindings
