import HeaderBindings.Json.Reader
import HeaderBindings.Json.Writer
import HeaderBindings.SymbolIndex

/-!
# The symbol table file

A table lists every exported function of a run and is kept as JSON next to the configuration. The
targets that it gives are used again in the next run, so that a name edited there stays.
-/

namespace HeaderBindings

structure SymbolEntry where
  symbol : String
  /-- The name in the header, behind its namespaces and classes. -/
  qualified : String
  target : String
  deriving Repr, DecidableEq

structure SymbolTable where
  entries : List SymbolEntry := []
  deriving Repr, DecidableEq

namespace SymbolTable

def fileName : String := "llbind.symb.json"

def ofIndex (index : SymbolIndex) : SymbolTable :=
  ⟨index.entries.map fun e => ⟨e.1, e.2.qualifiedName, e.2.targetName⟩⟩

def size (t : SymbolTable) : Nat := t.entries.length

def push (t : SymbolTable) (e : SymbolEntry) : SymbolTable := ⟨t.entries ++ [e]⟩

/-- The first entry of a symbol. -/
def lookup? (t : SymbolTable) (symbol : String) : Option SymbolEntry :=
  t.entries.find? (·.symbol = symbol)

def overrides (t : SymbolTable) : List (String × String) :=
  t.entries.map fun e => (e.symbol, e.target)

/-! ### As JSON -/

def entryToJson (e : SymbolEntry) : Json :=
  .object [(some "mangle", .text e.symbol), (some "c++", .text e.qualified),
    (some "target", .text e.target)]

def write (t : SymbolTable) : String := (Json.array (t.entries.map entryToJson)).write

def fileContent (t : SymbolTable) : String := t.write ++ "\n"

/-- The text of the only member of a given name. -/
def onlyMember? (members : List (JsonText × Json)) (name : String) : Option String :=
  match members.filter (·.1 = some name) with
  | [(_, value)] => value.text?
  | _ => none

/-- Reads an entry: an object with the three members, among others, or an array of the three
texts. -/
def entryOfJson? : Json → Option SymbolEntry
  | .object members => do
    if members.any (·.1.isNone) then none
    return ⟨← onlyMember? members "mangle", ← onlyMember? members "c++",
      ← onlyMember? members "target"⟩
  | .array [symbol, qualified, target] => do
    return ⟨← symbol.text?, ← qualified.text?, ← target.text?⟩
  | _ => none

def read? (text : String) : Option SymbolTable := do
  let elems ← (← Json.read? text).elems?
  return ⟨← elems.mapM entryOfJson?⟩

end SymbolTable

end HeaderBindings
