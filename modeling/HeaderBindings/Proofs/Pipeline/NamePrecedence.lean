import HeaderBindings.Generation
import HeaderBindings.Proofs.Pipeline.SymbolTableFile
import HeaderBindings.Proofs.Session.AutomaticNames
import HeaderBindings.Proofs.Toml.DistinctKeys
import Mathlib.Data.List.Forall2

/-!
# Which name counts

A function may be named by the configuration, by the symbol table of an earlier run and by the run
itself. The configuration comes first. Of the entries of a table for one symbol the last one counts,
unlike in `SymbolTable.lookup?`, and those before it leave nothing behind: their targets may be
given to other functions. A name that the run chooses is new in every respect
(`names_by_precedence`).

Two mechanisms meet here. The overrides of a session are a map that is filled from the table first
and from the configuration after it, so that a later target replaces an earlier one of the same
symbol: this decides between sources and between the entries of a table (`get?_overrides`). And
before the run begins, all targets that are left in this map are claimed, so that an automatic name
avoids each of them. A target that was replaced is in the map no longer, and is as free as any other
name.

That the run succeeds is part of the statement: the configuration is loaded, its headers are found,
the table is read, and each header is read in turn. These four are its hypotheses, in the form in
which the program asks for them.
-/

namespace HeaderBindings

/-- The target of the last entry of a symbol. -/
def SymbolTable.lastTarget? (t : SymbolTable) (symbol : String) : Option String :=
  (t.entries.reverse.find? (·.symbol = symbol)).map SymbolEntry.target

/-- The last entry of a symbol is the first one from behind. -/
theorem SymbolTable.lookup_reverse_overrides (t : SymbolTable) (symbol : String) :
    t.overrides.reverse.lookup symbol = t.lastTarget? symbol := by
  unfold overrides lastTarget?
  rw [← List.map_reverse]
  induction t.entries.reverse with
  | nil => rfl
  | cons e rest ih =>
    rw [List.map_cons, OrderedMap.lookup_cons_ite, List.find?_cons]
    by_cases h : e.symbol = symbol
    · simp [h]
    · simp [h, ih, Ne.symm h]

theorem SymbolTable.lastTarget?_eq_none {t : SymbolTable} {symbol : String} :
    t.lastTarget? symbol = none ↔ ∀ e ∈ t.entries, e.symbol ≠ symbol := by
  unfold lastTarget?
  rw [Option.map_eq_none_iff, List.find?_eq_none]
  simp

/-- A file with the bytes of a text is loaded as that text is parsed. -/
theorem Config.load_of_read {s : Surroundings} {path text : String}
    (h : s.read path = .ok (Text.encode text)) : load s path = parse text := by
  rw [load, SymbolTable.readText_of_read h]
  rfl

namespace Generation

variable {ε : Type} {s : Surroundings} {config : Config} {table : SymbolTable}

/-! ### Overrides

The keys of a configuration are distinct, as those of any table in the file format, so it has one
target for a symbol at most. The entries of a symbol table need not be.
-/

/-- **The configuration counts for more than the table.** -/
theorem get?_overrides (hsymbols : (config.symbols.map Prod.fst).Nodup) (decoration : Option Char)
    (table : SymbolTable) (k : String) :
    (sessionOptions decoration config table).overrides.get? k =
      (config.symbols.lookup k).or (table.lastTarget? k) := by
  show (OrderedMap.insertAll ∅ (table.overrides ++ config.symbols)).get? k = _
  rw [OrderedMap.get?_insertAll, List.reverse_append, List.lookup_append,
    OrderedMap.lookup_reverse hsymbols, SymbolTable.lookup_reverse_overrides, OrderedMap.get?_empty,
    Option.or_none]

/-! ### Runs

Reading stops at the first header that cannot be read; where there is none, the run is that of a
session over all of them.
-/

/-- A run over headers that can be read is the run of a session over what is read. -/
theorem processAll_eq_ok {read : String → Except ε HeaderUnit} {headers : List String}
    {units : List HeaderUnit}
    (h : List.Forall₂ (fun header unit => read header = .ok unit) headers units)
    (session : Session) : processAll read session headers = .ok (session.processAll units) := by
  induction h generalizing session with
  | nil => rfl
  | cons hread _ ih =>
    rw [processAll, hread]
    exact ih _

/-- **A run succeeds if everything that it reads can be read.** -/
theorem generate_eq_ok {read : HeaderReader ε} {configPath : String} {headers : List String}
    {units : List HeaderUnit} (hconfig : Config.load s configPath = .ok config)
    (hheaders : config.headerPaths s = .ok headers)
    (htable : (priorTable s (symbolFile configPath) : Except (GenerationError ε) SymbolTable) =
      .ok table)
    (hunits : List.Forall₂
      (fun header unit => read ⟨config.cplusplus, config.arguments s⟩ header = .ok unit)
      headers units) :
    generate s read configPath = .ok
      ⟨config, (Session.start (sessionOptions s.decoration config table)).processAll units⟩ := by
  have hplan : (plan s configPath : Except (GenerationError ε) Plan) =
      .ok ⟨config, headers, ⟨config.cplusplus, config.arguments s⟩,
        sessionOptions s.decoration config table⟩ := by
    rw [plan, hconfig]
    show (do
      let headers ← (config.headerPaths s).mapError GenerationError.headers
      let table ← priorTable s (symbolFile configPath)
      return (⟨config, headers, ⟨config.cplusplus, config.arguments s⟩,
        sessionOptions s.decoration config table⟩ : Plan)) = _
    rw [hheaders, htable]
    rfl
  rw [generate, hplan]
  show (do
    let session ← (processAll (read ⟨config.cplusplus, config.arguments s⟩)
      (.start (sessionOptions s.decoration config table)) headers).mapError GenerationError.frontend
    return (⟨config, session⟩ : Generation)) = _
  rw [processAll_eq_ok hunits]
  rfl

/-! ### Names

An overridden symbol has the target of its override, whatever it is declared as; the other symbols
have automatic names, which are given once in a run (`Session.automaticNames_once`).
-/

/-- Targets of the configuration count as overrides. -/
theorem get?_overrides_of_symbols (hsymbols : (config.symbols.map Prod.fst).Nodup)
    {k target : String} (h : (k, target) ∈ config.symbols) (decoration : Option Char)
    (table : SymbolTable) :
    (sessionOptions decoration config table).overrides.get? k = some target := by
  rw [get?_overrides hsymbols, (OrderedMap.mem_iff_lookup hsymbols).1 h, Option.some_or]

/-- A symbol that is no key of the configuration has no target in it. -/
theorem lookup_symbols_eq_none {k : String} (h : k ∉ config.symbols.map Prod.fst) :
    config.symbols.lookup k = none := by
  rw [← Option.not_isSome_iff_eq_none, OrderedMap.isSome_lookup_iff]
  exact h

/-- Where the configuration says nothing, the table counts. -/
theorem get?_overrides_of_not_mem (hsymbols : (config.symbols.map Prod.fst).Nodup) {k : String}
    (h : k ∉ config.symbols.map Prod.fst) (decoration : Option Char) (table : SymbolTable) :
    (sessionOptions decoration config table).overrides.get? k = table.lastTarget? k := by
  rw [get?_overrides hsymbols, lookup_symbols_eq_none h, Option.none_or]

/-- **Every symbol is named by the configuration, or else by the last entry of the table, or else by
the run.** A run succeeds on a configuration that can be loaded, with headers that are found and can
be read, and with a table that can be loaded or is not there. Of its symbols,

* one with a target in the configuration has that target;
* one without, but with entries in the table, has the target of the last of them;
* any other has a name that is no target of the configuration, no target of the last entry of a
  symbol that the configuration leaves to the table, and no other name that the run has chosen. -/
theorem names_by_precedence {read : HeaderReader ε} {configPath : String} {headers : List String}
    {units : List HeaderUnit} (hconfig : Config.load s configPath = .ok config)
    (hheaders : config.headerPaths s = .ok headers)
    (htable : (priorTable s (symbolFile configPath) : Except (GenerationError ε) SymbolTable) =
      .ok table)
    (hunits : List.Forall₂
      (fun header unit => read ⟨config.cplusplus, config.arguments s⟩ header = .ok unit)
      headers units) :
    ∃ g, generate s read configPath = .ok g ∧ g.config = config ∧
      ∀ k info, (k, info) ∈ g.session.symbols.entries →
        (∀ target, (k, target) ∈ config.symbols → info.targetName = target) ∧
        (k ∉ config.symbols.map Prod.fst →
          ∀ target, table.lastTarget? k = some target → info.targetName = target) ∧
        (k ∉ config.symbols.map Prod.fst → (∀ e ∈ table.entries, e.symbol ≠ k) →
          info.targetName ∉ config.symbols.map Prod.snd ∧
          (∀ other target, other ∉ config.symbols.map Prod.fst →
            table.lastTarget? other = some target → info.targetName ≠ target) ∧
          ∃ before after,
            Session.automaticNames (sessionOptions s.decoration config table) units =
              before ++ (k, info.targetName) :: after ∧
            ∀ e ∈ before ++ after, e.2 ≠ info.targetName) := by
  have hsymbols := Config.nodup_symbols_of_load hconfig
  have haccounted := Session.accounted_processAll (sessionOptions s.decoration config table) units
  refine ⟨_, generate_eq_ok hconfig hheaders htable hunits, rfl, ?_⟩
  intro k info hk
  rw [OrderedMap.mem_entries_iff] at hk
  refine ⟨?_, ?_, ?_⟩
  · intro target htarget
    exact haccounted.overridden hk (get?_overrides_of_symbols hsymbols htarget s.decoration table)
  · intro hother target htarget
    apply haccounted.overridden hk
    rw [get?_overrides_of_not_mem hsymbols hother, htarget]
  · intro hother hnone
    have hfree : (sessionOptions s.decoration config table).overrides.get? k = none := by
      rw [get?_overrides_of_not_mem hsymbols hother]
      exact SymbolTable.lastTarget?_eq_none.2 hnone
    -- the name is that of no override, and overrides are what the two sources still determine
    have hreserved : ∀ other {target},
        (sessionOptions s.decoration config table).overrides.get? other = some target →
          info.targetName ≠ target := by
      intro other target htarget heq
      refine haccounted.automatic hk ?_ (heq ▸ OrderedMap.mem_values_of_get? htarget)
      rw [← OrderedMap.isSome_get?_iff, hfree]
      exact Bool.false_ne_true
    refine ⟨?_, ?_, Session.automaticNames_once _ units hk hfree⟩
    · intro hmem
      obtain ⟨⟨other, target⟩, htarget, heq⟩ := List.mem_map.1 hmem
      exact hreserved other (get?_overrides_of_symbols hsymbols htarget s.decoration table) heq.symm
    · intro other target hleft htarget
      apply hreserved other
      rw [get?_overrides_of_not_mem hsymbols hleft, htarget]

/-- A configuration that names one of the functions of a header. -/
def penConfigText : String := "include = [\"/pen.h\"]\n\n[symbols]\npen_up = \"Lift\"\n"

def penConfig : Config where
  headers := ["/pen.h"]
  symbols := [("pen_up", "Lift")]

/-- The table of earlier runs, in which a function stands twice. -/
def penTable : SymbolTable :=
  ⟨[⟨"pen_up", "pen_up()", "Raise"⟩, ⟨"pen_down", "pen_down()", "Lower"⟩,
    ⟨"pen_down", "pen_down()", "Drop"⟩]⟩

def penSurroundings : Surroundings where
  read path :=
    if path = "llbind.toml" then .ok (Text.encode penConfigText)
    else .ok (Text.encode penTable.fileContent)
  isFile _ := true
  valueOf? _ := none
  output? _ _ := none

/-- Functions that ask for the names which the table has given to others. -/
def penHeader : HeaderUnit :=
  ⟨"/pen.h", ["pen_up", "pen_down", "raise", "lower", "drop"].map fun name =>
    Session.penFunction "/pen.h" name []⟩

def penReader : HeaderReader String := fun _ header =>
  if header = "/pen.h" then .ok penHeader else .error "not found"

/-- The configuration is the one that its text says. -/
theorem load_penConfig : Config.load penSurroundings "llbind.toml" = .ok penConfig := by
  have hread : penSurroundings.read "llbind.toml" = .ok (Text.encode penConfigText) := by
    unfold penSurroundings
    dsimp only
    exact if_pos rfl
  have hconfig : (Toml.read? penConfigText).bind Config.ofToml? = some penConfig := by
    decide +kernel
  rw [Config.load_of_read hread, Config.parse, hconfig]

/-- The table is read from the file beside the configuration. -/
theorem priorTable_penTable : (priorTable penSurroundings (symbolFile "llbind.toml") :
    Except (GenerationError String) SymbolTable) = .ok penTable := by
  have hpath : symbolFile "llbind.toml" = "llbind.symb.json" := by decide +kernel
  have hread : penSurroundings.read "llbind.symb.json" =
      .ok (Text.encode penTable.fileContent) := by
    unfold penSurroundings
    dsimp only
    exact if_neg (by decide)
  rw [hpath, priorTable, SymbolTable.load_of_read hread]
  rfl

/-- The targets `Raise` and `Lower`, which the table gives in vain, are free for others. -/
theorem names_by_precedence_pen :
    ∃ g, generate penSurroundings penReader "llbind.toml" = .ok g ∧
      g.session.symbols.entries.map (fun e => (e.1, e.2.targetName)) =
        [("pen_up", "Lift"), ("pen_down", "Drop"), ("raise", "Raise"), ("lower", "Lower"),
          ("drop", "Drop__1")] ∧
      (∀ info, ("pen_up", info) ∈ g.session.symbols.entries → info.targetName = "Lift") ∧
      (∀ info, ("pen_down", info) ∈ g.session.symbols.entries → info.targetName = "Drop") ∧
      (∀ info, ("drop", info) ∈ g.session.symbols.entries → info.targetName ≠ "Drop") := by
  have hheaders : penConfig.headerPaths penSurroundings = .ok ["/pen.h"] := rfl
  have hunits : List.Forall₂ (fun header unit =>
      penReader ⟨penConfig.cplusplus, penConfig.arguments penSurroundings⟩ header = .ok unit)
      ["/pen.h"] [penHeader] := by
    refine .cons ?_ .nil
    unfold penReader
    exact if_pos rfl
  obtain ⟨g, hg, -, hnames⟩ :=
    names_by_precedence load_penConfig hheaders priorTable_penTable hunits
  have hrun := generate_eq_ok load_penConfig hheaders priorTable_penTable hunits
  rw [hrun] at hg
  cases hg
  refine ⟨_, hrun, by decide +kernel, ?_, ?_, ?_⟩
  · intro info hinfo
    exact (hnames _ info hinfo).1 "Lift" (by decide)
  · intro info hinfo
    exact (hnames _ info hinfo).2.1 (by decide) "Drop" (by decide)
  · intro info hinfo
    have hnew := (hnames _ info hinfo).2.2 (by decide) (by decide)
    exact hnew.2.1 "pen_down" "Drop" (by decide) (by decide)

end Generation

end HeaderBindings
