import HeaderBindings.Config
import HeaderBindings.Proofs.Json.RoundTrip
import HeaderBindings.Proofs.Text.Utf8

/-!
# The symbol table file is read back

The file is all that a run knows of the names chosen by those before it. Whatever texts the symbols,
names and targets are, the file that is written of a table is read as that table, be it as text or
as bytes, so that it is written again without a change (`file_reads_back`).
-/

namespace HeaderBindings.SymbolTable

/-! ### Entries -/

theorem readsBack_entryToJson (e : SymbolEntry) : (entryToJson e).ReadsBack := by
  apply Json.readsBack_object
  intro m hm
  simp only [List.mem_cons, List.not_mem_nil, or_false] at hm
  rcases hm with rfl | rfl | rfl <;> exact ⟨rfl, Json.readsBack_text _⟩

theorem entryOfJson?_entryToJson (e : SymbolEntry) : entryOfJson? (entryToJson e) = some e := by
  simp [entryOfJson?, entryToJson, onlyMember?, Json.text, Json.text?]

theorem mapM_entryOfJson? (entries : List SymbolEntry) :
    (entries.map entryToJson).mapM entryOfJson? = some entries := by
  induction entries with
  | nil => rfl
  | cons e entries ih =>
    rw [List.map_cons, List.mapM_cons, entryOfJson?_entryToJson, ih]
    rfl

/-! ### Tables -/

theorem jsonRead?_write_append (t : SymbolTable) {blanks : String}
    (hblanks : Json.skip blanks.toList = []) :
    Json.read? (t.write ++ blanks) = some (.array (t.entries.map entryToJson)) := by
  apply Json.read?_write_append (Json.readsBack_array ?_) hblanks
  intro j hj
  obtain ⟨e, -, rfl⟩ := List.mem_map.1 hj
  exact readsBack_entryToJson e

theorem read?_write_append (t : SymbolTable) {blanks : String}
    (hblanks : Json.skip blanks.toList = []) : read? (t.write ++ blanks) = some t := by
  rw [read?, jsonRead?_write_append t hblanks]
  show ((t.entries.map entryToJson).mapM entryOfJson?).bind (fun entries => some ⟨entries⟩) = some t
  rw [mapM_entryOfJson?]
  rfl

theorem read?_fileContent (t : SymbolTable) : read? t.fileContent = some t :=
  read?_write_append t rfl

/-- A file with the bytes of a text is read as that text. -/
theorem readText_of_read {s : Surroundings} {path text : String}
    (h : s.read path = .ok (Text.encode text)) : s.readText path = .ok text := by
  rw [Surroundings.readText, h]
  simp only [bind, Except.bind, Text.decode?_encode]

/-- A file with the content that is written of a table is loaded as the table. -/
theorem load_of_read {s : Surroundings} {path : String} {t : SymbolTable}
    (h : s.read path = .ok (Text.encode t.fileContent)) : load s path = .ok t := by
  rw [load, readText_of_read h]
  show parse t.fileContent = .ok t
  rw [parse, read?_fileContent]

/-- **The file of a table is read back as that table.** What is written is JSON: the array of the
entries, each of them an object of three texts. It is read as the table without and with the line
break at the end of the file, and from the bytes of the file, and what is read is written as the
same text again. -/
theorem file_reads_back (t : SymbolTable) :
    Json.read? t.write = some (.array (t.entries.map fun e => .object
      [(some "mangle", .text e.symbol), (some "c++", .text e.qualified),
        (some "target", .text e.target)])) ∧
    read? t.write = some t ∧
    read? (t.write ++ "\n") = some t ∧
    (Text.decode? (Text.encode (t.write ++ "\n"))).bind read? = some t ∧
    (read? t.write).map write = some t.write ∧
    (read? (t.write ++ "\n")).map fileContent = some (t.write ++ "\n") := by
  have hnothing : Json.skip "".toList = [] := rfl
  have hjson := jsonRead?_write_append t hnothing
  have hwritten := read?_write_append t hnothing
  have hfile : read? (t.write ++ "\n") = some t := read?_fileContent t
  rw [String.append_empty] at hjson hwritten
  refine ⟨hjson, hwritten, hfile, ?_, ?_, ?_⟩
  · rw [Text.decode?_encode, Option.bind_some, hfile]
  · rw [hwritten, Option.map_some]
  · rw [hfile, Option.map_some, fileContent]

end HeaderBindings.SymbolTable
