import HeaderBindings.Proofs.Session.AlikeButNames
import HeaderBindings.Proofs.Session.DistinctNames
import HeaderBindings.SymbolTable

/-!
# Names survive regeneration

The table of a run lists the name of every symbol. When its targets are taken as overrides of the
next run, that run gives the same names to the same symbols, although it claims none of them: it
indexes the same symbols because runs that differ in overrides are alike but for names, and it names
them alike because every one of them is overridden now.
-/

namespace HeaderBindings

/-- The table that a run over headers leaves. -/
def SessionOptions.table (options : SessionOptions) (units : List HeaderUnit) : SymbolTable :=
  .ofIndex ((Session.start options).processAll units).symbols

/-- The options under which the targets of a table are used again. -/
def SessionOptions.keeping (options : SessionOptions) (table : SymbolTable) : SessionOptions :=
  { options with overrides := options.overrides.insertAll table.overrides }

/-! ### The overrides of a table -/

theorem SymbolTable.overrides_ofIndex (index : SymbolIndex) :
    (ofIndex index).overrides = (index.mapValues SymbolInfo.targetName).entries := by
  unfold overrides ofIndex
  rw [List.map_map]
  rfl

theorem SymbolTable.mem_ofIndex_iff {index : SymbolIndex} {e : SymbolEntry} :
    e ∈ (ofIndex index).entries ↔ index.get? e.symbol = some ⟨e.target, e.qualified⟩ := by
  rw [← OrderedMap.mem_entries_iff]
  constructor
  · intro h
    obtain ⟨⟨k, info⟩, hmem, rfl⟩ := List.mem_map.1 h
    exact hmem
  · intro h
    exact List.mem_map.2 ⟨_, h, rfl⟩

namespace SessionOptions

variable {options : SessionOptions} {index : SymbolIndex} {k : String}

/-- A symbol of the table keeps its target, and all others have the overrides that they had. -/
theorem get?_keeping (options : SessionOptions) (index : SymbolIndex) (k : String) :
    (options.keeping (.ofIndex index)).overrides.get? k =
      ((index.get? k).map SymbolInfo.targetName).or (options.overrides.get? k) := by
  unfold keeping
  dsimp only
  rw [SymbolTable.overrides_ofIndex, OrderedMap.get?_insertAll_entries, OrderedMap.get?_mapValues]

theorem get?_keeping_of_get? {info : SymbolInfo} (h : index.get? k = some info) :
    (options.keeping (.ofIndex index)).overrides.get? k = some info.targetName := by
  rw [get?_keeping, h]
  rfl

theorem mem_keeping_iff :
    k ∈ (options.keeping (.ofIndex index)).overrides ↔ k ∈ index ∨ k ∈ options.overrides := by
  rw [← OrderedMap.isSome_get?_iff, get?_keeping, Option.isSome_or, Option.isSome_map,
    Bool.or_eq_true, OrderedMap.isSome_get?_iff, OrderedMap.isSome_get?_iff]

end SessionOptions

namespace Session

variable {options : SessionOptions} {index : SymbolIndex}

/-! ### Runs under a table -/

/-- Whatever is run under a table, a symbol of the table has the target that the table gives. -/
theorem targetName_of_keeping {others : List HeaderUnit} {k : String} {info kept : SymbolInfo}
    (hindex : index.get? k = some kept)
    (h : ((start (options.keeping (.ofIndex index))).processAll others).symbols.get? k =
      some info) : info.targetName = kept.targetName :=
  (accounted_processAll _ others).overridden h (SessionOptions.get?_keeping_of_get? hindex)

/-- Whatever is run under a table, a symbol that is new has none of the targets that the table
gives. -/
theorem targetName_ne_of_keeping {others : List HeaderUnit} {k l : String}
    {info kept : SymbolInfo} (hindex : index.get? l = some kept) (hk : k ∉ index)
    (hfree : k ∉ options.overrides)
    (h : ((start (options.keeping (.ofIndex index))).processAll others).symbols.get? k =
      some info) : info.targetName ≠ kept.targetName := by
  have hkept : k ∉ (options.keeping (.ofIndex index)).overrides := by
    rw [SessionOptions.mem_keeping_iff]
    exact not_or.2 ⟨hk, hfree⟩
  have htarget : (options.keeping (.ofIndex index)).overrides.get? l = some kept.targetName :=
    SessionOptions.get?_keeping_of_get? hindex
  intro heq
  apply (accounted_processAll _ others).automatic h hkept
  rw [heq]
  exact OrderedMap.mem_values_of_get? htarget

theorem alikeButNames_keeping (options : SessionOptions) (table : SymbolTable) :
    AlikeButNames (start (options.keeping table)) (start options) :=
  ⟨⟨rfl, rfl⟩, rfl, rfl, rfl, rfl, rfl⟩

/-- **A run under its own table leaves the same index.** -/
theorem symbols_keeping (options : SessionOptions) (units : List HeaderUnit) :
    ((start (options.keeping (options.table units))).processAll units).symbols =
      ((start options).processAll units).symbols := by
  have halike := AlikeButNames.simulation.processAll
    (alikeButNames_keeping options (options.table units)) units
  have hkeys := congrArg OrderedMap.keys halike.qualified
  rw [OrderedMap.keys_mapValues, OrderedMap.keys_mapValues] at hkeys
  refine OrderedMap.ext_get? hkeys ?_
  intro k
  -- the qualified names agree already
  have hqualified := congrArg (·.get? k) halike.qualified
  rw [OrderedMap.get?_mapValues, OrderedMap.get?_mapValues] at hqualified
  cases hfirst : ((start options).processAll units).symbols.get? k with
  | none =>
    rw [hfirst] at hqualified
    exact Option.map_eq_none_iff.1 hqualified
  | some info =>
    rw [hfirst] at hqualified
    obtain ⟨again, hagain, hname⟩ := Option.map_eq_some_iff.1 hqualified
    -- the second run finds the symbol in the table and takes the target from there
    have htarget : again.targetName = info.targetName := targetName_of_keeping hfirst hagain
    rw [hagain]
    cases again
    cases info
    cases htarget
    cases hname
    rfl

/-- **Regeneration is stable.** A run under the table that an earlier run over the same headers has
left indexes the same symbols with the same names, so that it leaves the same table; and whatever
else is run under the table, its symbols keep their targets, and no new symbol gets one of them. -/
theorem regeneration_stable (options : SessionOptions) (units : List HeaderUnit) :
    ((start (options.keeping (options.table units))).processAll units).symbols =
      ((start options).processAll units).symbols ∧
    (options.keeping (options.table units)).table units = options.table units ∧
    ∀ others k info,
      (k, info) ∈
        ((start (options.keeping (options.table units))).processAll others).symbols.entries →
      (∀ e ∈ (options.table units).entries, e.symbol = k → info.targetName = e.target) ∧
      ((∀ e ∈ (options.table units).entries, e.symbol ≠ k) → k ∉ options.overrides →
        ∀ e ∈ (options.table units).entries, info.targetName ≠ e.target) := by
  have hsymbols := symbols_keeping options units
  refine ⟨hsymbols, congrArg SymbolTable.ofIndex hsymbols, ?_⟩
  intro others k info h
  rw [OrderedMap.mem_entries_iff] at h
  constructor
  · rintro e he rfl
    exact targetName_of_keeping (SymbolTable.mem_ofIndex_iff.1 he) h
  · intro hnew hfree e he
    have hk : k ∉ ((start options).processAll units).symbols := by
      intro hmem
      obtain ⟨old, hold⟩ := OrderedMap.exists_get?_of_mem hmem
      exact hnew ⟨k, old.qualifiedName, old.targetName⟩ (SymbolTable.mem_ofIndex_iff.2 hold) rfl
    exact targetName_ne_of_keeping (SymbolTable.mem_ofIndex_iff.1 he) hk hfree h

end Session

end HeaderBindings
