import HeaderBindings.Toml.Basic

/-!
# Tables under construction

The tables of a text are built statement by statement. What a statement may add depends on how a
table came into being:

* a header `[a.b]` opens the table `b`, once; tables on the way to it are created as needed, and may
  be opened by a header of their own later;
* a header `[[a.b]]` adds a table to the array `b`, and later headers go into the last one;
* a dotted key `a.b = v` creates `a`, to which other dotted keys of the same section may add.

No value is ever replaced.
-/

namespace HeaderBindings.Toml

/-- How a table came into being: by its header, on the way to another table, or by a dotted key. -/
inductive Origin where
  | header | inner | dotted
  deriving Repr, DecidableEq

/-- What stands under a key of a table that is being built. -/
inductive Item where
  | value (v : Toml)
  | table (origin : Origin) (entries : List (String × Item))
  /-- An array of tables, of which the last is still open. -/
  | tables (earlier : List Toml) (last : List (String × Item))
  deriving Repr

abbrev Entries := List (String × Item)

mutual

def Item.finish : Item → Toml
  | .value v => v
  | .table _ entries => .table (finishEntries entries)
  | .tables earlier last => .array (earlier ++ [.table (finishEntries last)])

def finishEntries : List (String × Item) → List (String × Toml)
  | [] => []
  | (key, item) :: rest => (key, item.finish) :: finishEntries rest

end

/-- A key with the tables on the way to it. -/
structure DottedKey where
  tables : List String
  last : String
  deriving Repr, DecidableEq

/-- Changes the entry of a key. `change` is given what stands there, if anything does, and may
refuse. -/
def alter (key : String) (change : Option Item → Option Item) : Entries → Option Entries
  | [] => (change none).map fun item => [(key, item)]
  | (k, item) :: rest =>
    if k = key then (change (some item)).map fun item => (k, item) :: rest
    else (alter key change rest).map ((k, item) :: ·)

/-- Changes the table at an entry, which is created if nothing stands there. -/
def within (dotted : Bool) (change : Origin → Entries → Option Entries) :
    Option Item → Option Item
  | none =>
    let origin := if dotted then .dotted else .inner
    (change origin []).map (.table origin)
  | some (.value _) => none
  | some (.table origin entries) =>
    -- a dotted key does not lead into a table with a header of its own
    if dotted && origin = .header then none else (change origin entries).map (.table origin)
  | some (.tables earlier last) => (change .header last).map (.tables earlier)

def modifyAt (dotted : Bool) (change : Origin → Entries → Option Entries) :
    List String → Origin → Entries → Option Entries
  | [], origin, entries => change origin entries
  | key :: path, _, entries => alter key (within dotted (modifyAt dotted change path)) entries

def vacant (v : Toml) : Option Item → Option Item
  | none => some (.value v)
  | some _ => none

/-- Writes a value under a dotted key. -/
def insert (key : DottedKey) (v : Toml) (entries : Entries) : Option Entries :=
  modifyAt true
    (fun origin entries =>
      -- the table at hand, or one that dotted keys have created
      if key.tables = [] ∨ origin = .dotted then alter key.last (vacant v) entries else none)
    key.tables .header entries

def ofPairs? (pairs : List (DottedKey × Toml)) : Option Toml := do
  let entries ← pairs.foldlM (fun entries pair => insert pair.1 pair.2 entries) []
  return .table (finishEntries entries)

/-! ### Statements -/

inductive Statement where
  | section (key : DottedKey)
  | element (key : DottedKey)
  | pair (key : DottedKey) (v : Toml)
  deriving Repr

def openTable : Option Item → Option Item
  | none => some (.table .header [])
  | some (.table .inner entries) => some (.table .header entries)
  | some _ => none

def addTable : Option Item → Option Item
  | none => some (.tables [] [])
  | some (.tables earlier last) => some (.tables (earlier ++ [.table (finishEntries last)]) [])
  | some _ => none

def atHeader (key : DottedKey) (change : Option Item → Option Item) (root : Entries) :
    Option Entries :=
  modifyAt false (fun _ => alter key.last change) key.tables .header root

/-- A text up to some statement: all entries, and the path to the table that is open. -/
structure Progress where
  root : Entries := []
  current : List String := []
  deriving Repr

def Progress.add (p : Progress) : Statement → Option Progress
  | .section key => do
    return ⟨← atHeader key openTable p.root, key.tables ++ [key.last]⟩
  | .element key => do
    return ⟨← atHeader key addTable p.root, key.tables ++ [key.last]⟩
  | .pair key v => do
    return { p with root := ← modifyAt false (fun _ => insert key v) p.current .header p.root }

def ofStatements? (statements : List Statement) : Option Toml := do
  let progress ← statements.foldlM Progress.add {}
  return .table (finishEntries progress.root)

end HeaderBindings.Toml
