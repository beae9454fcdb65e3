import HeaderBindings.Proofs.Session.Receivers

/-!
# Names of bindings, kind by kind

Every kind of binding is named on a path of its own. A type is bound once for each name: what counts
as bound are the names of the bound types, so that no two of them share one (`BindsTypesOnce`). A
function gets a name that no other function has, and is bound under what this name is read as. Two
names may be read alike, but not if both are read as they are written; then functions with different
symbols are bound under different names (`BindsFunctionsOnce`).

Each of the two is an invariant of the session with one lemma for a visit and, by induction, one for
a run. Only the first one needs no assumption: it is kept by every visit. The second one is about
the symbols that the run has indexed so far, so it goes along with a list of them, and a visit has
to bring a symbol that is not in the list.
-/

namespace HeaderBindings

namespace Package

/-- The bound types of a package. -/
def types (p : Package) : List TypeBinding := p.bindings.filterMap Binding.type?

/-- The bound functions of a package. -/
def functions (p : Package) : List FunctionBinding := p.bindings.filterMap Binding.function?

/-- Bound types are added to those that are there. -/
theorem types_pushAll_perm (p : Package) (header : String) (added : List Binding) :
    (p.pushAll header added).types.Perm (added.filterMap Binding.type? ++ p.types) := by
  have h := (p.bindings_pushAll_perm header added).filterMap Binding.type?
  rwa [List.filterMap_append] at h

/-- Likewise bound functions. -/
theorem functions_pushAll_perm (p : Package) (header : String) (added : List Binding) :
    (p.pushAll header added).functions.Perm (added.filterMap Binding.function? ++ p.functions) := by
  have h := (p.bindings_pushAll_perm header added).filterMap Binding.function?
  rwa [List.filterMap_append] at h

end Package

namespace Session

variable {s t : Session} {p : Place} {d : Decl}

/-! ### Types

A package lists its bindings by header, in an order that says nothing about when they were made. So
bindings are compared up to their order, by permutations.
-/

/-- The bound types have different names, which count as bound. -/
structure BindsTypesOnce (s : Session) : Prop where
  nodup : (s.package.types.map TypeBinding.name).Nodup
  emitted : ∀ b ∈ s.package.types, b.name ∈ s.emitted

/-- A session binds the types that another one binds, or one more whose name did not count as
bound. -/
inductive BindsOneMore (s t : Session) : Prop where
  | same : t.package.types.Perm s.package.types → t.emitted = s.emitted → BindsOneMore s t
  | new {b : TypeBinding} : b.name ∉ s.emitted → t.package.types.Perm (b :: s.package.types) →
      t.emitted = b.name :: s.emitted → BindsOneMore s t

/-- A type that counts as bound is not bound again. -/
theorem bindsOneMore_emitType (s : Session) (p : Place) (d : Decl) (target : String) :
    s.BindsOneMore (s.emitType p d target) := by
  rcases emitType_cases s p d target with heq | ⟨declared, -, -, -, hnew, heq⟩
  · rw [heq]
    exact .same (.refl _) rfl
  · rw [heq]
    exact .new hnew (s.package.types_pushAll_perm p.file [.type _]) rfl

theorem bindsOneMore_declareType (s : Session) (p : Place) (d : Decl) (target : String)
    (type : DeclaredType) : s.BindsOneMore (s.declareType p d target type) := by
  cases bindsOneMore_emitType { s with types := s.types.register target type } p d target with
  | same hperm hemitted => exact .same hperm hemitted
  | new hnew hperm hemitted => exact .new hnew hperm hemitted

theorem bindsOneMore_declareEnum (s : Session) (p : Place) (d : Decl) (name : Option String) :
    s.BindsOneMore (s.declareEnum p d name) := by
  rcases declareEnum_cases s p d name with h | ⟨target, h⟩
  · rw [h]
    exact .same (.refl _) rfl
  · rw [h]
    exact bindsOneMore_declareType s p d _ _

/-- Binding a function binds no type. -/
theorem types_bindFunction_perm (s : Session) (p : Place) (d : Decl) (f : FunctionDecl)
    (signature : Signature TargetType) :
    (s.bindFunction p d f signature).package.types.Perm s.package.types := by
  unfold bindFunction
  dsimp only
  split
  · exact s.package.types_pushAll_perm p.file [.function _]
  · exact .refl _

/-- Neither does binding enumerators. -/
theorem types_bindEnumerators_perm (s : Session) (p : Place) (d : Decl) (name : Option String)
    (items : List (Enumerator × Int64)) :
    (s.bindEnumerators p d name items).package.types.Perm s.package.types := by
  obtain ⟨consts, hconsts⟩ := package_bindEnumerators_consts s p d name items
  have hperm := s.package.types_pushAll_perm p.file (consts.map .const)
  rwa [Binding.filterMap_type?_const, List.nil_append, ← hconsts] at hperm

/-- **A visit binds one type at most**, under a name that no bound type has. -/
theorem Outcome.bindsOneMore (h : Outcome s p d t) : s.BindsOneMore t := by
  cases h with
  | passed => exact .same (.refl _) rfl
  | failed =>
    rw [skip_eq]
    exact .same (.refl _) rfl
  | function => exact .same (types_bindFunction_perm s p d _ _) rfl
  | takenRecord | takenTypedef => exact bindsOneMore_emitType s p d _
  | record | typedef => exact bindsOneMore_declareType s p d _ _
  | @enum name items values =>
    have hperm := types_bindEnumerators_perm (s.declareEnum p d name) p d name (items.zip values)
    have hemitted := emitted_bindEnumerators (s.declareEnum p d name) p d name (items.zip values)
    cases bindsOneMore_declareEnum s p d name with
    | same hsame hemitted' => exact .same (hperm.trans hsame) (hemitted.trans hemitted')
    | new hnew hone hemitted' => exact .new hnew (hperm.trans hone) (hemitted.trans hemitted')

/-- **A visit binds no type twice.** -/
theorem BindsTypesOnce.of_bindsOneMore (h : s.BindsTypesOnce) (hmore : s.BindsOneMore t) :
    t.BindsTypesOnce := by
  cases hmore with
  | same hperm hemitted =>
    exact ⟨(hperm.map _).nodup_iff.2 h.nodup,
      fun b hb => hemitted ▸ h.emitted b (hperm.mem_iff.1 hb)⟩
  | @new b hnew hperm hemitted =>
    constructor
    · refine (hperm.map _).nodup_iff.2 (List.nodup_cons.2 ⟨?_, h.nodup⟩)
      -- the name is not bound yet
      intro hmem
      obtain ⟨other, hother, hname⟩ := List.mem_map.1 hmem
      exact hnew (hname ▸ h.emitted other hother)
    · intro other hother
      rw [hemitted]
      rcases List.mem_cons.1 (hperm.mem_iff.1 hother) with rfl | hother
      · exact List.mem_cons_self
      · exact List.mem_cons_of_mem _ (h.emitted other hother)

/-- **No two types of a run are bound under one name**, without any assumption on the run. -/
theorem bindsTypesOnce_processAll (options : SessionOptions) (units : List HeaderUnit) :
    ((start options).processAll units).BindsTypesOnce := by
  have hstart : (start options).BindsTypesOnce := ⟨List.nodup_nil, fun b hb => (nomatch hb)⟩
  exact processAll_preserves (motive := BindsTypesOnce)
    (fun s p d h => h.of_bindsOneMore (outcome_visit s p d).bindsOneMore) hstart units

/-! ### Functions

A function is bound under a name that is read from its target name, so two bindings are told apart
in three steps: their symbols are different; different symbols are indexed under different target
names; and different target names are read as different names if they are read as they are written.
-/

/-- The symbol under which a visit indexes a function, if it does. -/
def exportedSymbol? (decoration : Option Char) (v : Place × Decl) : Option String :=
  match v.2.kind with
  | .function f =>
    if v.1.holds v.2 && isExported f v.2 then
      some (SymbolIndex.undecorate decoration f.mangledName)
    else none
  | _ => none

/-- The name of a function is written so that it is read as it was meant: that of the record around
it is plain, and if there is none, the function's own name starts with no parenthesis. -/
def WritesPlainly (s : Session) (p : Place) (f : FunctionDecl) : Prop :=
  match p.record? with
  | some record => IsPlainName (s.rules.functionName record)
  | none => (s.candidateName p f).toList.head? ≠ some '('

/-- A number behind a name does not change how it is read. -/
theorem isReadable_form {f : FunctionDecl} (h : s.WritesPlainly p f) (n : Nat) :
    FunctionName.IsReadable (NameCounter.form (s.candidateName p f) n) := by
  unfold WritesPlainly at h
  cases hrecord : p.record? with
  | none =>
    rw [hrecord] at h
    exact FunctionName.isReadable_of_head? (FunctionName.head?_form h n)
  | some record =>
    rw [hrecord] at h
    obtain ⟨method, hcandidate⟩ := candidateName_of_record hrecord s f
    rw [hcandidate, FunctionName.form_render]
    exact FunctionName.isReadable_render h _

/-- The bound functions belong to different symbols among `done`, under which they are indexed by
the names that they have. -/
structure BindsFunctionsOnce (s : Session) (done : List String) : Prop where
  nodup : (s.package.functions.map FunctionBinding.linkName).Nodup
  subset : ∀ b ∈ s.package.functions, b.linkName ∈ done
  indexed : ∀ b ∈ s.package.functions, ∃ info, s.symbols.get? b.linkName = some info ∧
    b.name = FunctionName.ofString info.targetName
  readable : ∀ symbol info, s.symbols.get? symbol = some info →
    FunctionName.IsReadable info.targetName

/-- A visit that binds no function and indexes none keeps the functions apart. -/
theorem BindsFunctionsOnce.of_perm {done done' : List String} (h : s.BindsFunctionsOnce done)
    (hperm : t.package.functions.Perm s.package.functions) (hsymbols : t.symbols = s.symbols)
    (hsubset : done ⊆ done') : t.BindsFunctionsOnce done' where
  nodup := (hperm.map _).nodup_iff.2 h.nodup
  subset b hb := hsubset (h.subset b (hperm.mem_iff.1 hb))
  indexed b hb := hsymbols ▸ h.indexed b (hperm.mem_iff.1 hb)
  readable symbol info hget := h.readable symbol info (hsymbols ▸ hget)

/-- A new symbol is indexed under a readable name. -/
theorem BindsFunctionsOnce.of_insert {done : List String} (h : s.BindsFunctionsOnce done)
    {symbol : String} (hnew : symbol ∉ done) {info : SymbolInfo}
    (hreadable : FunctionName.IsReadable info.targetName) (hpackage : t.package = s.package)
    (hsymbols : t.symbols = s.symbols.insert symbol info) : t.BindsFunctionsOnce done where
  nodup := hpackage ▸ h.nodup
  subset := hpackage ▸ h.subset
  indexed b hb := by
    rw [hpackage] at hb
    -- the entries of other symbols stay as they are
    have hother : b.linkName ≠ symbol := by
      rintro rfl
      exact hnew (h.subset b hb)
    rw [hsymbols, OrderedMap.get?_insert, if_neg hother]
    exact h.indexed b hb
  readable k info' hget := by
    rw [hsymbols, OrderedMap.get?_insert] at hget
    split at hget
    · cases hget
      exact hreadable
    · exact h.readable k info' hget

/-- A function with a new symbol is bound under the name that is indexed for it. -/
theorem BindsFunctionsOnce.of_push {done : List String} (h : s.BindsFunctionsOnce done)
    {header : String} {b : FunctionBinding} (hnew : b.linkName ∉ done)
    (hindexed : ∃ info, s.symbols.get? b.linkName = some info ∧
      b.name = FunctionName.ofString info.targetName)
    (hpackage : t.package = s.package.push header (.function b))
    (hsymbols : t.symbols = s.symbols) : t.BindsFunctionsOnce (b.linkName :: done) := by
  have hperm := s.package.functions_pushAll_perm header [.function b]
  have hfunctions : t.package.functions.Perm (b :: s.package.functions) := hpackage ▸ hperm
  refine ⟨?_, ?_, ?_, fun k info hget => h.readable k info (hsymbols ▸ hget)⟩
  · refine (hfunctions.map _).nodup_iff.2 (List.nodup_cons.2 ⟨?_, h.nodup⟩)
    intro hmem
    obtain ⟨other, hother, hlink⟩ := List.mem_map.1 hmem
    exact hnew (hlink ▸ h.subset other hother)
  · intro other hother
    rcases List.mem_cons.1 (hfunctions.mem_iff.1 hother) with rfl | hother
    · exact List.mem_cons_self
    · exact List.mem_cons_of_mem _ (h.subset other hother)
  · intro other hother
    rw [hsymbols]
    rcases List.mem_cons.1 (hfunctions.mem_iff.1 hother) with rfl | hother
    · exact hindexed
    · exact h.indexed other hother

/-- **A function with a new symbol is bound under a name of its own.** -/
theorem BindsFunctionsOnce.bindFunction {done : List String} (h : s.BindsFunctionsOnce done)
    {f : FunctionDecl} (hfree : ∀ symbol, s.overrides.get? symbol = none)
    (hplain : s.WritesPlainly p f)
    (hnew : SymbolIndex.undecorate s.decoration f.mangledName ∉ done)
    (signature : Signature TargetType) :
    (s.bindFunction p d f signature).BindsFunctionsOnce
      (SymbolIndex.undecorate s.decoration f.mangledName :: done) := by
  obtain ⟨n, hname⟩ := nameFunction_of_not_overridden
    (hfree (SymbolIndex.undecorate s.decoration f.mangledName)) p f
  have hreadable := isReadable_form hplain n
  rw [← hname] at hreadable
  unfold Session.bindFunction
  dsimp only
  generalize SymbolIndex.undecorate s.decoration f.mangledName = symbol at *
  -- the symbol is indexed first, and then bound if the header may bind anything
  have hindexed : ({ s with
      symbols := s.symbols.insert symbol
        ⟨(s.nameFunction p symbol f).1, p.qualified f.displayName⟩ } : Session).BindsFunctionsOnce
        done := by
    refine h.of_insert hnew ?_ rfl rfl
    exact hreadable
  have hget : ∀ info, (s.symbols.insert symbol info).get? symbol = some info := by
    intro info
    rw [OrderedMap.get?_insert, if_pos rfl]
  split
  · exact hindexed.of_push (b := ⟨_, symbol, signature, d.doc⟩) hnew ⟨_, hget _, rfl⟩ rfl rfl
  · exact hindexed.of_perm (.refl _) rfl (List.subset_cons_self symbol done)

/-- **A visit keeps the functions apart** if its symbol is new. -/
theorem BindsFunctionsOnce.visit {done : List String} (h : s.BindsFunctionsOnce done)
    (hfree : ∀ symbol, s.overrides.get? symbol = none)
    (hplain : ∀ f, d.kind = .function f → s.WritesPlainly p f)
    (hnew : ∀ symbol ∈ exportedSymbol? s.decoration (p, d), symbol ∉ done) :
    (s.visit p d).BindsFunctionsOnce ((exportedSymbol? s.decoration (p, d)).toList ++ done) := by
  by_cases hkind : ∃ f, d.kind = .function f
  · obtain ⟨f, hkind⟩ := hkind
    rcases (outcome_visit s p d).of_function hkind with ⟨skipped, heq⟩ |
      ⟨signature, hholds, hexported, heq⟩
    · rw [heq]
      exact h.of_perm (.refl _) rfl (List.subset_append_right _ _)
    · have hsymbol : exportedSymbol? s.decoration (p, d) =
          some (SymbolIndex.undecorate s.decoration f.mangledName) := by
        unfold exportedSymbol?
        rw [hkind]
        dsimp only
        rw [hholds, hexported]
        rfl
      rw [heq, hsymbol]
      exact h.bindFunction hfree (hplain f hkind) (hnew _ hsymbol) signature
  · have hother : ∀ f, d.kind ≠ .function f := fun f hf => hkind ⟨f, hf⟩
    obtain ⟨added, hadded, hpackage⟩ := (outcome_visit s p d).package_of_not_function hother
    have hsymbols := (outcome_visit s p d).symbols_of_not_function hother
    refine h.of_perm ?_ hsymbols (List.subset_append_right _ _)
    rw [hpackage]
    refine (s.package.functions_pushAll_perm p.file added).trans ?_
    rw [List.filterMap_eq_nil_iff.2 hadded]
    exact .refl _

/-! ### Whole runs

Different symbols come from the assumption on the visits, and different target names from the
account of the names in use, which holds in every session of a run.
-/

/-- How a name is written is a matter of the prefix rules. -/
theorem WritesPlainly.congr {f : FunctionDecl} (h : s.WritesPlainly p f)
    (hrules : t.rules = s.rules) : t.WritesPlainly p f := by
  unfold WritesPlainly candidateName at h ⊢
  rw [hrules]
  exact h

/-- **Visits with different symbols keep the functions apart**, by induction on the visits. -/
theorem BindsFunctionsOnce.visitAll {done : List String} (h : s.BindsFunctionsOnce done)
    (hfree : ∀ symbol, s.overrides.get? symbol = none) {visits : List (Place × Decl)}
    (hplain : ∀ v ∈ visits, ∀ f, v.2.kind = .function f → s.WritesPlainly v.1 f)
    (hnodup : (visits.filterMap (exportedSymbol? s.decoration)).Nodup)
    (hnew : ∀ symbol ∈ visits.filterMap (exportedSymbol? s.decoration), symbol ∉ done) :
    ∃ done', (s.visitAll visits).BindsFunctionsOnce done' := by
  induction visits generalizing s done with
  | nil => exact ⟨done, h⟩
  | cons v rest ih =>
    have hsymbols : (v :: rest).filterMap (exportedSymbol? s.decoration) =
        (exportedSymbol? s.decoration v).toList ++
          rest.filterMap (exportedSymbol? s.decoration) := by
      rw [List.filterMap_cons]
      cases exportedSymbol? s.decoration v <;> rfl
    rw [hsymbols, List.nodup_append] at hnodup
    rw [hsymbols] at hnew
    obtain ⟨-, hrest, hapart⟩ := hnodup
    have hvisit := h.visit hfree (hplain v List.mem_cons_self) fun symbol hsymbol =>
      hnew symbol (List.mem_append_left _ (Option.mem_toList.2 hsymbol))
    rw [visitAll_cons]
    refine ih hvisit ?_ ?_ ?_ ?_
    · intro symbol
      rw [overrides_visit]
      exact hfree symbol
    · intro w hw f hf
      exact (hplain w (List.mem_cons_of_mem v hw) f hf).congr (rules_visit s v.1 v.2)
    · rw [decoration_visit]
      exact hrest
    · intro symbol hsymbol hmem
      rw [decoration_visit] at hsymbol
      rcases List.mem_append.1 hmem with hmem | hmem
      · exact hapart symbol hmem symbol hsymbol rfl
      · exact hnew symbol (List.mem_append_right _ hsymbol) hmem

/-- **Functions with different target names are bound under different names**, since these are read
as they are written. -/
theorem BindsFunctionsOnce.nodup_names {done : List String} (h : s.BindsFunctionsOnce done)
    (haccounted : Accounted s.overrides s.counter s.symbols) (hfree : s.overrides = ∅) :
    (s.package.functions.map fun b => b.name.render).Nodup := by
  have hautomatic : ∀ symbol, symbol ∉ s.overrides := by
    rw [hfree]
    exact fun symbol hmem => nomatch hmem
  have hlinks := h.nodup
  unfold List.Nodup at hlinks ⊢
  rw [List.pairwise_map] at hlinks ⊢
  refine hlinks.imp_of_mem ?_
  intro b other hb hother hlink hrender
  obtain ⟨info, hget, hname⟩ := h.indexed b hb
  obtain ⟨info', hget', hname'⟩ := h.indexed other hother
  -- both names are read as they are written, so the target names are the same
  have htarget : info.targetName = info'.targetName := by
    rw [hname, hname', h.readable _ _ hget, h.readable _ _ hget'] at hrender
    exact hrender
  exact hlink (haccounted.apart hget hget' (hautomatic _) (hautomatic _) htarget)

/-- **No two functions of a run are bound under one name.** -/
theorem nodup_functions_processAll {options : SessionOptions} (hoverrides : options.overrides = ∅)
    {units : List HeaderUnit}
    (hsymbols : ((units.flatMap HeaderUnit.visits).filterMap
      (exportedSymbol? options.decoration)).Nodup)
    (hplain : ∀ v ∈ units.flatMap HeaderUnit.visits, ∀ f, v.2.kind = .function f →
      (start options).WritesPlainly v.1 f) :
    (((start options).processAll units).package.functions.map fun b => b.name.render).Nodup := by
  have hstart : (start options).BindsFunctionsOnce [] :=
    ⟨List.nodup_nil, fun b hb => (nomatch hb), fun b hb => (nomatch hb),
      fun symbol info hget => (nomatch hget)⟩
  have hfree : ∀ symbol, (start options).overrides.get? symbol = none :=
    not_overridden_visitAll hoverrides []
  obtain ⟨done, hend⟩ := hstart.visitAll hfree hplain hsymbols fun symbol _ hmem => nomatch hmem
  rw [← processAll_eq_visitAll] at hend
  refine hend.nodup_names ?_ ?_
  · rw [overrides_processAll]
    exact accounted_processAll options units
  · rw [overrides_processAll]
    exact hoverrides

end Session

end HeaderBindings
