import HeaderBindings.Config

/-!
# The keys of a table differ from each other

No statement replaces a value, so a table that is read holds a key at most once, however deep it
stands in the text (`Toml.keyed_read?`). A configuration therefore gives a symbol no more than one
target (`Config.nodup_symbols_of_load`).

Tables are lists of entries here, and a list may well hold a key twice. So that keys differ is a
property of the values that the reader makes (`Toml.Keyed`), by induction on them: the entries of
each table have different keys, and their values are such values again.

## What is being kept

A text is read as a list of statements, and a table is built of them, statement by statement. The
table that is being built is of another kind than the one that results: each of its entries tells
how it came about, whether as a value, as a table that may be extended or as an array of tables, and
that decides what later statements may do to it. The property is therefore stated of what the
entries amount to when they are finished (`Entries.Keyed`).

* A change of one entry keeps the property (`KeepsEntry`) if whatever it makes of an old entry, or
  of none, is keyed when finished. There are three such changes: a value is put where nothing is, a
  table is opened, and a table is added to an array.
* A change of a table keeps the property (`KeepsTable`). Altering the entry under a key is one
  (`keepsTable_alter`): if the key is there, its entry is changed in place, and the keys stay as
  they are; else one entry is added, and its key is new.
* A change at the end of a path is a change of the table at the start of the path
  (`keepsTable_modifyAt`), by induction on the path.

So each statement keeps the property (`keyed_add`), and so do all of them. It remains that the
values in the statements are keyed, which is where inline tables come in: they are built by the same
insertion (`keyed_ofPairs?`), and all other values hold tables only inside of arrays.
-/

namespace HeaderBindings.Toml

/-- A value in which no table holds a key twice. -/
inductive Keyed : Toml → Prop where
  | string (s : String) : Keyed (.string s)
  | integer (n : Int64) : Keyed (.integer n)
  | float (spelling : String) : Keyed (.float spelling)
  | boolean (b : Bool) : Keyed (.boolean b)
  | datetime (text : String) : Keyed (.datetime text)
  | array {elems : List Toml} (helems : ∀ v ∈ elems, Keyed v) : Keyed (.array elems)
  | table {entries : List (String × Toml)} (hkeys : (entries.map Prod.fst).Nodup)
      (hvalues : ∀ e ∈ entries, Keyed e.2) : Keyed (.table entries)

theorem keyed_array_iff {elems : List Toml} : (array elems).Keyed ↔ ∀ v ∈ elems, v.Keyed :=
  ⟨fun | .array helems => helems, .array⟩

theorem keyed_table_iff {entries : List (String × Toml)} :
    (table entries).Keyed ↔ (entries.map Prod.fst).Nodup ∧ ∀ e ∈ entries, e.2.Keyed :=
  ⟨fun | .table hkeys hvalues => ⟨hkeys, hvalues⟩, fun h => .table h.1 h.2⟩

theorem keyed_table_nil : (table []).Keyed := keyed_table_iff.2 ⟨List.nodup_nil, nofun⟩

theorem keyed_table_cons {key : String} {v : Toml} {rest : List (String × Toml)} :
    (table ((key, v) :: rest)).Keyed ↔
      key ∉ rest.map Prod.fst ∧ v.Keyed ∧ (table rest).Keyed := by
  rw [keyed_table_iff, keyed_table_iff, List.map_cons, List.nodup_cons, List.forall_mem_cons]
  constructor
  · rintro ⟨⟨hkey, hkeys⟩, hv, hrest⟩
    exact ⟨hkey, hv, hkeys, hrest⟩
  · rintro ⟨hkey, hv, hkeys, hrest⟩
    exact ⟨⟨hkey, hkeys⟩, hv, hrest⟩

theorem keyed_of_get? {t v : Toml} (ht : t.Keyed) {key : String} (h : t.get? key = some v) :
    v.Keyed := by
  unfold get? at h
  split at h
  · obtain ⟨hkeys, hvalues⟩ := keyed_table_iff.1 ht
    exact hvalues _ ((OrderedMap.mem_iff_lookup hkeys).2 h)
  · cases h

/-! ### Changes of a table that is being built

Each of the lemmas takes one change and needs nothing of the table but that it was keyed. Whether a
change is allowed is up to the reader; one that is not gives no table, and nothing is left to prove.
-/

/-- The table that the entries make up holds no key twice, and neither does any table in it. -/
def Entries.Keyed (entries : Entries) : Prop := (table (finishEntries entries)).Keyed

namespace Entries

theorem keyed_nil : Keyed [] := keyed_table_nil

theorem keyed_cons {key : String} {item : Item} {rest : Entries} :
    Keyed ((key, item) :: rest) ↔
      key ∉ (finishEntries rest).map Prod.fst ∧ item.finish.Keyed ∧ Keyed rest :=
  keyed_table_cons

end Entries

/-- A change of an entry that keeps the keys of all tables apart. -/
def KeepsEntry (change : Option Item → Option Item) : Prop :=
  ∀ {old new}, (∀ item, old = some item → item.finish.Keyed) → change old = some new →
    new.finish.Keyed

/-- A change of a table that keeps the keys of all tables apart. -/
def KeepsTable (change : Entries → Option Entries) : Prop :=
  ∀ {old new}, Entries.Keyed old → change old = some new → Entries.Keyed new

/-- A value takes the place of nothing, and is keyed by itself. -/
theorem keepsEntry_vacant {v : Toml} (hv : v.Keyed) : KeepsEntry (vacant v) := by
  rintro (_ | item) new - hnew
  · cases hnew
    exact hv
  · cases hnew

/-- A table that is opened is empty, or is the one that is there. -/
theorem keepsEntry_openTable : KeepsEntry openTable := by
  intro old new hold hnew
  unfold openTable at hnew
  split at hnew
  · cases hnew
    exact Entries.keyed_nil
  · next entries =>
    -- the entries stay those of the table that was created on the way to another one
    cases hnew
    exact hold (.table .inner entries) rfl
  · cases hnew

/-- The tables of an array, of which the last one may be changed. -/
theorem keyed_tables {earlier : List Toml} {last : Entries} :
    (Item.tables earlier last).finish.Keyed ↔ (∀ v ∈ earlier, v.Keyed) ∧ last.Keyed := by
  rw [Item.finish, keyed_array_iff]
  constructor
  · intro h
    refine ⟨fun v hv => h v (List.mem_append_left _ hv), ?_⟩
    exact h _ (List.mem_append_right earlier List.mem_cons_self)
  · rintro ⟨hearlier, hlast⟩ v hv
    rcases List.mem_append.1 hv with hv | hv
    · exact hearlier v hv
    · rw [List.mem_singleton.1 hv]
      exact hlast

/-- A table that is added to an array is empty, and the tables before it stay. -/
theorem keepsEntry_addTable : KeepsEntry addTable := by
  intro old new hold hnew
  unfold addTable at hnew
  split at hnew
  · cases hnew
    exact keyed_tables.2 ⟨nofun, Entries.keyed_nil⟩
  · next earlier last =>
    cases hnew
    have hall : (Item.tables earlier last).finish.Keyed := hold _ rfl
    rw [Item.finish, keyed_array_iff] at hall
    exact keyed_tables.2 ⟨hall, Entries.keyed_nil⟩
  · cases hnew

/-- The only key that an altered table may have gained is the one that is altered. -/
theorem mem_keys_of_alter {key k : String} {change : Option Item → Option Item}
    {old new : Entries} (h : alter key change old = some new)
    (hk : k ∈ (finishEntries new).map Prod.fst) :
    k = key ∨ k ∈ (finishEntries old).map Prod.fst := by
  induction old generalizing new with
  | nil =>
    obtain ⟨item, -, rfl⟩ := Option.map_eq_some_iff.1 h
    exact .inl (List.mem_singleton.1 hk)
  | cons e rest ih =>
    rw [alter] at h
    split at h
    · obtain ⟨item, -, rfl⟩ := Option.map_eq_some_iff.1 h
      exact .inr hk
    · obtain ⟨altered, haltered, rfl⟩ := Option.map_eq_some_iff.1 h
      rcases List.mem_cons.1 hk with rfl | hk
      · exact .inr List.mem_cons_self
      · exact (ih haltered hk).imp_right (List.mem_cons_of_mem _)

/-- **To alter an entry keeps the keys apart**: a key is added only if it is not found. -/
theorem keepsTable_alter {change : Option Item → Option Item} (hchange : KeepsEntry change)
    (key : String) : KeepsTable (alter key change) := by
  intro old
  induction old with
  | nil =>
    intro new _ hnew
    obtain ⟨item, hitem, rfl⟩ := Option.map_eq_some_iff.1 hnew
    exact Entries.keyed_cons.2 ⟨List.not_mem_nil, hchange (by nofun) hitem, Entries.keyed_nil⟩
  | cons e rest ih =>
    obtain ⟨k, item⟩ := e
    intro new hold hnew
    obtain ⟨hkey, hitem, hrest⟩ := Entries.keyed_cons.1 hold
    rw [alter] at hnew
    split at hnew
    · obtain ⟨changed, hchanged, rfl⟩ := Option.map_eq_some_iff.1 hnew
      refine Entries.keyed_cons.2 ⟨hkey, hchange ?_ hchanged, hrest⟩
      rintro _ ⟨⟩
      exact hitem
    · next hne =>
      obtain ⟨altered, haltered, rfl⟩ := Option.map_eq_some_iff.1 hnew
      refine Entries.keyed_cons.2 ⟨fun hmem => ?_, hitem, ih hrest haltered⟩
      rcases mem_keys_of_alter haltered hmem with heq | hmem
      · exact hne heq
      · exact hkey hmem

/-- A change of a table is one of the entry that holds it. -/
theorem keepsEntry_within {change : Origin → Entries → Option Entries}
    (hchange : ∀ origin, KeepsTable (change origin)) (dotted : Bool) :
    KeepsEntry (within dotted change) := by
  intro old new hold hnew
  unfold within at hnew
  split at hnew
  · obtain ⟨entries, hentries, rfl⟩ := Option.map_eq_some_iff.1 hnew
    exact hchange _ Entries.keyed_nil hentries
  · cases hnew
  · next origin entries =>
    split at hnew
    · cases hnew
    · obtain ⟨changed, hchanged, rfl⟩ := Option.map_eq_some_iff.1 hnew
      exact hchange origin (hold (.table origin entries) rfl) hchanged
  · next earlier last =>
    obtain ⟨changed, hchanged, rfl⟩ := Option.map_eq_some_iff.1 hnew
    obtain ⟨hearlier, hlast⟩ := keyed_tables.1 (hold _ rfl)
    exact keyed_tables.2 ⟨hearlier, hchange _ hlast hchanged⟩

/-- **A change keeps the keys apart wherever it takes place**, by induction on the path. -/
theorem keepsTable_modifyAt {change : Origin → Entries → Option Entries}
    (hchange : ∀ origin, KeepsTable (change origin)) (dotted : Bool) (path : List String)
    (origin : Origin) : KeepsTable (modifyAt dotted change path origin) := by
  induction path generalizing origin with
  | nil => exact hchange origin
  | cons key path ih => exact keepsTable_alter (keepsEntry_within ih dotted) key

theorem keepsTable_insert {v : Toml} (hv : v.Keyed) (key : DottedKey) :
    KeepsTable (insert key v) := by
  refine keepsTable_modifyAt (fun origin => ?_) true key.tables .header
  split
  · exact keepsTable_alter (keepsEntry_vacant hv) key.last
  · intro old new _ hnew
    cases hnew

/-- What every step keeps, a run of steps keeps. -/
theorem foldlM_keeps {α β : Type} {P : β → Prop} {step : β → α → Option β} {xs : List α}
    (hstep : ∀ x ∈ xs, ∀ {b b'}, P b → step b x = some b' → P b') {b b' : β} (hb : P b)
    (h : xs.foldlM step b = some b') : P b' := by
  induction xs generalizing b with
  | nil =>
    cases h
    exact hb
  | cons x xs ih =>
    rw [List.foldlM_cons] at h
    obtain ⟨next, hnext, h⟩ := Option.bind_eq_some_iff.1 h
    exact ih (fun y hy => hstep y (List.mem_cons_of_mem x hy))
      (hstep x List.mem_cons_self hb hnext) h

/-! ### Readers

Only the reader of values is recursive, together with those of elements and of pairs, and the three
of them are treated by one induction on the fuel (`ReadsKeyed`). The readers of scalars give values
without tables, whatever they read.
-/

/-- An inline table is built from pairs by insertion, and so it is keyed as the values in the pairs
are. -/
theorem keyed_ofPairs? {pairs : List (DottedKey × Toml)} (hpairs : ∀ p ∈ pairs, p.2.Keyed)
    {t : Toml} (h : ofPairs? pairs = some t) : t.Keyed := by
  obtain ⟨entries, hentries, h⟩ := Option.bind_eq_some_iff.1 h
  cases h
  refine foldlM_keeps (P := Entries.Keyed) ?_ Entries.keyed_nil hentries
  intro p hp old new hold hnew
  exact keepsTable_insert (hpairs p hp) p.1 hold hnew

theorem keyed_readDatetime {cs rest : List Char} {t : Toml}
    (h : readDatetime cs = some (t, rest)) : t.Keyed := by
  unfold readDatetime at h
  split at h
  · split at h <;> cases h <;> exact .datetime _
  · obtain ⟨⟨text, _⟩, -, h⟩ := Option.map_eq_some_iff.1 h
    cases h
    exact .datetime text

/-- The end of a float: its number may be refused, and its spelling is returned. -/
theorem keyed_float_of_bind {number? : Option Nat} {refused : Nat → Bool} {spelling : String}
    {left rest : List Char} {t : Toml}
    (h : (number?.bind fun n => if refused n then none else some (float spelling, left)) =
      some (t, rest)) : t.Keyed := by
  obtain ⟨n, -, h⟩ := Option.bind_eq_some_iff.1 h
  split at h <;> cases h
  exact .float spelling

theorem keyed_readFloat {cs rest : List Char} {t : Toml} (h : readFloat cs = some (t, rest)) :
    t.Keyed := by
  obtain ⟨⟨whole, _⟩, -, h⟩ := Option.bind_eq_some_iff.1 h
  dsimp only at h
  -- with a fraction and an exponent, with a fraction alone, or with an exponent alone
  split at h
  · split at h
    · obtain ⟨_, -, h⟩ := Option.bind_eq_some_iff.1 h
      exact keyed_float_of_bind h
    · obtain ⟨_, -, h⟩ := Option.bind_eq_some_iff.1 h
      exact keyed_float_of_bind h
    · exact keyed_float_of_bind h
  · obtain ⟨_, -, h⟩ := Option.bind_eq_some_iff.1 h
    exact keyed_float_of_bind h

theorem keyed_readInRadix {radix : Nat} {cs rest : List Char} {t : Toml}
    (h : readInRadix radix cs = some (t, rest)) : t.Keyed := by
  obtain ⟨⟨digits, _⟩, -, h⟩ := Option.bind_eq_some_iff.1 h
  obtain ⟨n, -, h⟩ := Option.bind_eq_some_iff.1 h
  obtain ⟨word, -, h⟩ := Option.bind_eq_some_iff.1 h
  cases h
  exact .integer word

theorem keyed_readInteger {cs rest : List Char} {t : Toml}
    (h : readInteger cs = some (t, rest)) : t.Keyed := by
  unfold readInteger at h
  split at h
  · exact keyed_readInRadix h
  · exact keyed_readInRadix h
  · exact keyed_readInRadix h
  · obtain ⟨⟨digits, _⟩, -, h⟩ := Option.bind_eq_some_iff.1 h
    obtain ⟨n, -, h⟩ := Option.bind_eq_some_iff.1 h
    obtain ⟨word, -, h⟩ := Option.bind_eq_some_iff.1 h
    cases h
    exact .integer word

theorem keyed_readScalar {cs rest : List Char} {t : Toml} (h : readScalar cs = some (t, rest)) :
    t.Keyed := by
  unfold readScalar at h
  split at h
  · obtain ⟨⟨text, _⟩, -, h⟩ := Option.map_eq_some_iff.1 h
    cases h
    exact .string text
  · obtain ⟨⟨text, _⟩, -, h⟩ := Option.map_eq_some_iff.1 h
    cases h
    exact .string text
  · cases h
    exact .boolean true
  · cases h
    exact .boolean false
  · simp only [readNumeric, Option.orElse_eq_orElse, Option.orElse_eq_or,
      Option.or_eq_some_iff] at h
    rcases h with h | ⟨-, h | ⟨-, h | ⟨-, h⟩⟩⟩
    · exact keyed_readDatetime h
    · exact keyed_readFloat h
    · unfold readSpecial at h
      split at h <;> cases h <;> exact .float _
    · exact keyed_readInteger h

/-- What the three readers of values yield with some fuel. -/
structure ReadsKeyed (fuel : Nat) : Prop where
  value : ∀ {level cs t rest}, readValue fuel level cs = some (t, rest) → t.Keyed
  elems : ∀ {level cs elems rest}, readElems fuel level cs = some (elems, rest) →
    ∀ t ∈ elems, t.Keyed
  pairs : ∀ {level cs pairs rest}, readPairs fuel level cs = some (pairs, rest) →
    ∀ p ∈ pairs, p.2.Keyed

namespace ReadsKeyed

variable {fuel level : Nat} {cs rest : List Char}

theorem value_succ (h : ReadsKeyed fuel) {t : Toml}
    (hread : readValue (fuel + 1) level cs = some (t, rest)) : t.Keyed := by
  unfold readValue at hread
  split at hread
  · cases hread
  · obtain ⟨⟨elems, _⟩, helems, hread⟩ := Option.bind_eq_some_iff.1 hread
    cases hread
    exact keyed_array_iff.2 (h.elems helems)
  · cases hread
  · dsimp only at hread
    split at hread
    · obtain ⟨_, ⟨⟩, hread⟩ := Option.bind_eq_some_iff.1 hread
      obtain ⟨table, htable, hread⟩ := Option.bind_eq_some_iff.1 hread
      cases hread
      exact keyed_ofPairs? (by nofun) htable
    · obtain ⟨⟨pairs, _⟩, hpairs, hread⟩ := Option.bind_eq_some_iff.1 hread
      obtain ⟨table, htable, hread⟩ := Option.bind_eq_some_iff.1 hread
      cases hread
      exact keyed_ofPairs? (h.pairs hpairs) htable
  · exact keyed_readScalar hread

theorem elems_succ (h : ReadsKeyed fuel) {elems : List Toml}
    (hread : readElems (fuel + 1) level cs = some (elems, rest)) : ∀ t ∈ elems, t.Keyed := by
  rw [readElems] at hread
  obtain ⟨start, -, hread⟩ := Option.bind_eq_some_iff.1 hread
  dsimp only at hread
  split at hread
  · cases hread
    nofun
  · obtain ⟨⟨elem, afterElem⟩, helem, hread⟩ := Option.bind_eq_some_iff.1 hread
    obtain ⟨separator, -, hread⟩ := Option.bind_eq_some_iff.1 hread
    dsimp only at hread
    split at hread
    · obtain ⟨⟨more, _⟩, hmore, hread⟩ := Option.bind_eq_some_iff.1 hread
      cases hread
      exact List.forall_mem_cons.2 ⟨h.value helem, h.elems hmore⟩
    · cases hread
      exact List.forall_mem_cons.2 ⟨h.value helem, nofun⟩
    · cases hread

theorem pairs_succ (h : ReadsKeyed fuel) {pairs : List (DottedKey × Toml)}
    (hread : readPairs (fuel + 1) level cs = some (pairs, rest)) : ∀ p ∈ pairs, p.2.Keyed := by
  rw [readPairs] at hread
  obtain ⟨⟨key, afterKey⟩, -, hread⟩ := Option.bind_eq_some_iff.1 hread
  dsimp only at hread
  split at hread
  · obtain ⟨⟨value, afterValue⟩, hvalue, hread⟩ := Option.bind_eq_some_iff.1 hread
    dsimp only at hread
    split at hread
    · obtain ⟨⟨more, _⟩, hmore, hread⟩ := Option.bind_eq_some_iff.1 hread
      cases hread
      exact List.forall_mem_cons.2 ⟨h.value hvalue, h.pairs hmore⟩
    · cases hread
      exact List.forall_mem_cons.2 ⟨h.value hvalue, nofun⟩
    · cases hread
  · cases hread

end ReadsKeyed

/-- **Values are read with their keys apart**, by induction on the fuel. -/
theorem readsKeyed (fuel : Nat) : ReadsKeyed fuel := by
  induction fuel with
  | zero =>
    constructor <;> intro level cs _ rest h
    · rw [readValue] at h
      cases h
    · rw [readElems] at h
      cases h
    · rw [readPairs] at h
      cases h
  | succ fuel ih => exact ⟨ih.value_succ, ih.elems_succ, ih.pairs_succ⟩

/-! ### Statements

A header names a table, and brings no value with it. So it is enough to look at the values of pairs.
-/

/-- A statement adds nothing but values whose keys are apart. -/
def Statement.Keyed : Statement → Prop
  | .section _ | .element _ => True
  | .pair _ v => v.Keyed

theorem keyed_readStatement {cs rest : List Char} {statement : Statement}
    (h : readStatement cs = some (statement, rest)) : statement.Keyed := by
  unfold readStatement at h
  split at h
  · obtain ⟨⟨key, _⟩, -, h⟩ := Option.bind_eq_some_iff.1 h
    split at h <;> cases h
    trivial
  · obtain ⟨⟨key, _⟩, -, h⟩ := Option.bind_eq_some_iff.1 h
    split at h <;> cases h
    trivial
  · obtain ⟨⟨key, _⟩, -, h⟩ := Option.bind_eq_some_iff.1 h
    split at h
    · obtain ⟨⟨value, _⟩, hvalue, h⟩ := Option.bind_eq_some_iff.1 h
      cases h
      exact (readsKeyed _).value hvalue
    · cases h

theorem keyed_readStatements {fuel : Nat} {cs : List Char} {statements : List Statement}
    (h : readStatements fuel cs = some statements) : ∀ s ∈ statements, s.Keyed := by
  induction fuel generalizing cs statements with
  | zero =>
    cases cs with
    | nil =>
      cases h
      nofun
    | cons c cs => cases h
  | succ fuel ih =>
    cases cs with
    | nil =>
      cases h
      nofun
    | cons c cs =>
      simp only [readStatements] at h
      split at h
      · exact ih h
      · obtain ⟨⟨statement, _⟩, hstatement, h⟩ := Option.bind_eq_some_iff.1 h
        obtain ⟨_, -, h⟩ := Option.bind_eq_some_iff.1 h
        obtain ⟨more, hmore, h⟩ := Option.bind_eq_some_iff.1 h
        cases h
        exact List.forall_mem_cons.2 ⟨keyed_readStatement hstatement, ih hmore⟩

theorem keyed_add {p q : Progress} {statement : Statement} (hstatement : statement.Keyed)
    (hp : p.root.Keyed) (h : p.add statement = some q) : q.root.Keyed := by
  cases statement with
  | «section» key =>
    obtain ⟨root, hroot, h⟩ := Option.bind_eq_some_iff.1 h
    cases h
    exact keepsTable_modifyAt (fun _ => keepsTable_alter keepsEntry_openTable key.last) false
      key.tables .header hp hroot
  | element key =>
    obtain ⟨root, hroot, h⟩ := Option.bind_eq_some_iff.1 h
    cases h
    exact keepsTable_modifyAt (fun _ => keepsTable_alter keepsEntry_addTable key.last) false
      key.tables .header hp hroot
  | pair key v =>
    obtain ⟨root, hroot, h⟩ := Option.bind_eq_some_iff.1 h
    cases h
    exact keepsTable_modifyAt (fun _ => keepsTable_insert hstatement key) false p.current .header
      hp hroot

/-- **No table of a text holds a key twice.** -/
theorem keyed_read? {s : String} {t : Toml} (h : read? s = some t) : t.Keyed := by
  obtain ⟨statements, hstatements, h⟩ := Option.bind_eq_some_iff.1 h
  obtain ⟨progress, hprogress, h⟩ := Option.bind_eq_some_iff.1 h
  cases h
  exact foldlM_keeps (P := fun p : Progress => p.root.Keyed)
    (fun statement hmem _ _ => keyed_add (keyed_readStatements hstatements statement hmem))
    Entries.keyed_nil hprogress

end HeaderBindings.Toml

namespace HeaderBindings.Config

theorem keys_of_mapM {entries : List (String × Toml)} {texts : List (String × String)}
    (h : (entries.mapM fun e => e.2.string?.map (e.1, ·)) = some texts) :
    texts.map Prod.fst = entries.map Prod.fst := by
  induction entries generalizing texts with
  | nil =>
    cases h
    rfl
  | cons e entries ih =>
    rw [List.mapM_cons] at h
    obtain ⟨_, hfirst, h⟩ := Option.bind_eq_some_iff.1 h
    obtain ⟨more, hmore, h⟩ := Option.bind_eq_some_iff.1 h
    obtain ⟨text, -, rfl⟩ := Option.map_eq_some_iff.1 hfirst
    cases h
    rw [List.map_cons, List.map_cons, ih hmore]

theorem nodup_of_textsByName? {t : Toml} (ht : t.Keyed) {texts : List (String × String)}
    (h : textsByName? t = some texts) : (texts.map Prod.fst).Nodup := by
  unfold textsByName? at h
  split at h
  · rw [keys_of_mapM h]
    exact (Toml.keyed_table_iff.1 ht).1
  · cases h
    exact List.nodup_cons.2 ⟨List.not_mem_nil, List.nodup_nil⟩
  · cases h

theorem nodup_of_setting {table : Toml} (htable : table.Keyed) {name : String}
    {texts : List (String × String)} (h : setting table name textsByName? [] = some texts) :
    (texts.map Prod.fst).Nodup := by
  unfold setting at h
  split at h
  · next value hvalue => exact nodup_of_textsByName? (Toml.keyed_of_get? htable hvalue) h
  · cases h
    exact List.nodup_nil

/-- **A configuration that is loaded gives a symbol at most one target.** -/
theorem nodup_symbols_of_load {s : Surroundings} {path : String} {config : Config}
    (h : load s path = .ok config) : (config.symbols.map Prod.fst).Nodup := by
  cases htext : s.readText path with
  | error cause =>
    rw [load, htext] at h
    cases h
  | ok text =>
    rw [load, htext] at h
    change parse text = .ok config at h
    unfold parse at h
    split at h
    · next hread =>
      cases h
      obtain ⟨table, htable, hread⟩ := Option.bind_eq_some_iff.1 hread
      -- the table of symbols is the last setting
      iterate 7 obtain ⟨_, -, hread⟩ := Option.bind_eq_some_iff.1 hread
      obtain ⟨symbols, hsymbols, hread⟩ := Option.bind_eq_some_iff.1 hread
      cases hread
      exact nodup_of_setting (Toml.keyed_read? htable) hsymbols
    · cases h

end HeaderBindings.Config
