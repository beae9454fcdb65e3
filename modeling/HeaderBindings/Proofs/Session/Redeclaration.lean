import HeaderBindings.Proofs.Conversion.Weakening
import HeaderBindings.Proofs.Naming.ClaimAhead
import HeaderBindings.Proofs.Session.BindingNames
import HeaderBindings.Proofs.Session.Numbering
import HeaderBindings.Proofs.Session.Simulation

/-!
# A function that is declared again

A function that is declared twice is named twice: unless its symbol is overridden, its second
declaration claims another form of the same name and takes the place of the first one in the index.
From then on the run is one claim ahead of the run without the second declaration. The two write the
same symbols in the same order, under the same names, but for the functions that ask for the name of
the repeated one: these get a later form of it (`index_of_redeclared`).

## Two runs side by side

The run with the repeated declaration is compared with the run without it. Up to the repetition they
are the same run; the repetition itself is a visit that only one of them makes; and behind it both
make the same visits.

* `ClaimsAhead` relates the two sessions. What they convert is the same, since functions have no
  influence on types; their counters differ by one claim (`NameCounter.Ahead`); and their indexes
  hold the same symbols, with entries that are the same or renumbered (`Renumbers`).
* The repetition leads into the relation (`claimsAhead_again`). Between the two declarations no
  function has the same symbol, so the entry of the first declaration is still there to be replaced,
  and the claim of the second one gives a form with a greater number.
* Every visit behind it keeps the relation (`ClaimsAhead.visit`), and so does a run, by induction on
  its visits (`ClaimsAhead.visitAll`). A function that asks for another name gets the same form in
  both runs, and one that asks for the name of the repeated function gets a later form in the run
  that is ahead.

## Which entries are renumbered

An entry of the index belongs to the function that was the last to be indexed under its symbol, and
earlier ones leave no trace. So it is that function's claim that decides on whether the entry is the
same in both runs. The writes of a run are therefore kept as a list (`Write`), along with what each
of them claims, and an entry is looked up by the last write of its symbol (`lastClaim?`). Functions
with an override claim nothing and are never renumbered.
-/

namespace HeaderBindings

namespace Session

variable {s t : Session} {p : Place} {d : Decl} {f : FunctionDecl}
  {signature : Signature TargetType} {extra : Option String}

/-! ### What is written into the index

What a function writes is told by the rules, the overrides and the decoration of the session, all of
which stay the same throughout a run.
-/

/-- A symbol that is written into the index, and the name that is claimed for it, if it is not
overridden. -/
structure Write where
  symbol : String
  claimed : Option String
  deriving Repr, DecidableEq

/-- What a function writes when it is named. -/
def writeOf (s : Session) (p : Place) (f : FunctionDecl) : Write where
  symbol := SymbolIndex.undecorate s.decoration f.mangledName
  claimed :=
    match s.overrides.get? (SymbolIndex.undecorate s.decoration f.mangledName) with
    | some _ => none
    | none => some (s.candidateName p f)

theorem candidateName_congr (hrules : t.rules = s.rules) (p : Place) (f : FunctionDecl) :
    t.candidateName p f = s.candidateName p f := by
  unfold candidateName
  rw [hrules]

theorem writeOf_congr (hrules : t.rules = s.rules) (hoverrides : t.overrides = s.overrides)
    (hdecoration : t.decoration = s.decoration) (p : Place) (f : FunctionDecl) :
    t.writeOf p f = s.writeOf p f := by
  unfold writeOf
  rw [hdecoration, hoverrides, candidateName_congr hrules]

theorem writeOf_visitAll (s : Session) (visits : List (Place × Decl)) (p : Place)
    (f : FunctionDecl) : (s.visitAll visits).writeOf p f = s.writeOf p f :=
  writeOf_congr (rules_visitAll s visits) (overrides_visitAll s visits)
    (decoration_visitAll s visits) p f

theorem underscore_not_mem_claimed (s : Session) (p : Place) (f : FunctionDecl) :
    ∀ name ∈ (s.writeOf p f).claimed, '_' ∉ name.toList := by
  intro name hname
  unfold writeOf at hname
  dsimp only at hname
  split at hname
  · cases hname
  · cases hname
    exact underscore_not_mem_candidateName s p f

/-- A function that is named puts the counter one claim ahead. -/
theorem ahead_nameFunction (s : Session) (p : Place) (f : FunctionDecl) :
    NameCounter.Ahead (s.writeOf p f).claimed s.counter
      (s.nameFunction p (s.writeOf p f).symbol f).2 := by
  unfold nameFunction writeOf
  dsimp only
  cases s.overrides.get? (SymbolIndex.undecorate s.decoration f.mangledName) with
  | some target => exact .refl _
  | none => exact .refl _

/-- What a step writes, if it names a function. -/
def Step.write? (v : Step) : Option Write :=
  match v.decl.kind with
  | .function f => if v.candidate?.isSome then some (v.session.writeOf v.place f) else none
  | _ => none

theorem Step.write?_eq_some {v : Step} (h : v.Names f signature) :
    v.write? = some (v.session.writeOf v.place f) := by
  unfold write?
  rw [h.kind]
  dsimp only
  rw [candidate?_eq_some h]
  rfl

theorem Step.write?_eq_none {v : Step} (h : ∀ f signature, ¬ v.Names f signature) :
    v.write? = none := by
  unfold write?
  split
  · rw [candidate?_eq_none h]
    rfl
  · rfl

/-- The name that is claimed for a symbol when it is written for the last time. -/
def lastClaim? (writes : List Write) (symbol : String) : Option String :=
  (writes.filter (·.symbol = symbol)).getLast?.bind Write.claimed

theorem lastClaim?_concat (writes : List Write) (w : Write) (symbol : String) :
    lastClaim? (writes ++ [w]) symbol =
      if w.symbol = symbol then w.claimed else lastClaim? writes symbol := by
  unfold lastClaim?
  rw [List.filter_append]
  split
  · next hsymbol => simp [hsymbol]
  · next hsymbol => simp [hsymbol]

/-! ### Indexes of which one is a claim ahead

An index is an ordered map, and a symbol that is written again keeps its place in it. So the same
symbols in the same order is a matter of the keys, and the entries are compared one by one.
-/

/-- An entry of an index, and what becomes of it when one more name is claimed before it is written:
it gets a later form if that is the name that is claimed for it, and stays as it is otherwise. -/
inductive Renumbered (extra claimed : Option String) (info : SymbolInfo) : SymbolInfo → Prop where
  | kept : (∀ name, extra = some name → claimed ≠ some name) → Renumbered extra claimed info info
  | moved {name m n} : extra = some name → claimed = some name → m < n →
      info.targetName = NameCounter.form name m →
      Renumbered extra claimed info ⟨NameCounter.form name n, info.qualifiedName⟩

theorem Renumbered.eq_of_none {claimed : Option String} {info info' : SymbolInfo}
    (h : Renumbered none claimed info info') : info' = info := by
  cases h with
  | kept => rfl
  | moved hextra => cases hextra

/-- Two indexes with the same symbols in the same order, the entries of which are renumbered after
one more claim. -/
structure Renumbers (extra : Option String) (writes : List Write) (index index' : SymbolIndex) :
    Prop where
  keys : index'.keys = index.keys
  entry : ∀ {symbol info}, index.get? symbol = some info →
    ∃ info', index'.get? symbol = some info' ∧
      Renumbered extra (lastClaim? writes symbol) info info'

namespace Renumbers

variable {writes : List Write} {index index' : SymbolIndex}

/-- **Symbols that are written into both indexes** keep them renumbered. -/
theorem insert (h : Renumbers extra writes index index') {w : Write} {info info' : SymbolInfo}
    (hinfo : Renumbered extra w.claimed info info') :
    Renumbers extra (writes ++ [w]) (index.insert w.symbol info)
      (index'.insert w.symbol info') where
  keys := by
    have hmem : w.symbol ∈ index' ↔ w.symbol ∈ index := by
      rw [OrderedMap.mem_iff, OrderedMap.mem_iff, h.keys]
    rw [OrderedMap.keys_insert, OrderedMap.keys_insert, h.keys]
    simp only [hmem]
  entry := by
    intro symbol old hget
    rw [OrderedMap.get?_insert] at hget
    rw [OrderedMap.get?_insert, lastClaim?_concat]
    by_cases hsymbol : symbol = w.symbol
    · rw [if_pos hsymbol] at hget
      cases hget
      rw [if_pos hsymbol, if_pos hsymbol.symm]
      exact ⟨info', rfl, hinfo⟩
    · rw [if_neg hsymbol] at hget
      rw [if_neg hsymbol, if_neg (Ne.symm hsymbol)]
      exact h.entry hget

/-- A symbol that is written again, into one index only. -/
theorem again {w : Write} {info info' : SymbolInfo} (hget : index.get? w.symbol = some info)
    (hinfo : Renumbered extra w.claimed info info') :
    Renumbers extra [w] index (index.insert w.symbol info') where
  keys := by rw [OrderedMap.keys_insert, if_pos (OrderedMap.mem_of_get? hget)]
  entry := by
    intro symbol old hold
    rw [OrderedMap.get?_insert, ← List.nil_append [w], lastClaim?_concat]
    by_cases hsymbol : symbol = w.symbol
    · rw [hsymbol, hget] at hold
      cases hold
      rw [if_pos hsymbol, if_pos hsymbol.symm]
      exact ⟨info', rfl, hinfo⟩
    · rw [if_neg hsymbol, if_neg (Ne.symm hsymbol)]
      exact ⟨old, hold, .kept fun name _ => nofun⟩

/-- Without one more claim, the indexes are the same. -/
theorem eq_of_none (h : Renumbers none writes index index') : index' = index := by
  refine OrderedMap.ext_get? h.keys fun symbol => ?_
  cases hget : index.get? symbol with
  | none =>
    have hmem : symbol ∉ index' := by
      rw [OrderedMap.mem_iff, h.keys, ← OrderedMap.mem_iff, ← OrderedMap.isSome_get?_iff, hget]
      exact Bool.false_ne_true
    rwa [← OrderedMap.isSome_get?_iff, Option.not_isSome_iff_eq_none] at hmem
  | some info =>
    obtain ⟨info', hget', hrenumbered⟩ := h.entry hget
    rw [hget', hrenumbered.eq_of_none]

end Renumbers

/-! ### Runs of which one is a claim ahead

What a visit does besides naming a function is the same in both sessions, because they convert
alike. So only the visits that name a function have to be looked at.
-/

/-- Two sessions of which the second has claimed one more name, and otherwise found out the same;
the writes are those after this claim. -/
structure ClaimsAhead (extra : Option String) (writes : List Write) (s t : Session) : Prop where
  rules : t.rules = s.rules
  overrides : t.overrides = s.overrides
  decoration : t.decoration = s.decoration
  types : t.types = s.types
  counter : NameCounter.Ahead extra s.counter t.counter
  symbols : Renumbers extra writes s.symbols t.symbols

/-- Which types a visit registers depends on what is registered and trimmed, and on nothing else. -/
theorem simulation_convertAlike : Simulation ConvertAlike where
  alike h := h
  withTypes h types := ⟨h.trim, rfl⟩
  skip := by
    intro s t h p d label cause
    rw [skip_eq, skip_eq]
    exact ⟨h.trim, h.types⟩
  emitType := by
    intro s t h p d target
    obtain ⟨emitted, package, heq⟩ := emitType_eq s p d target
    obtain ⟨emitted', package', heq'⟩ := emitType_eq t p d target
    rw [heq, heq']
    exact ⟨h.trim, h.types⟩
  bindFunction h p d f signature := ⟨h.trim, h.types⟩
  bindEnumerators := by
    intro s t h p d name items
    obtain ⟨package, heq⟩ := bindEnumerators_eq s p d name items
    obtain ⟨package', heq'⟩ := bindEnumerators_eq t p d name items
    rw [heq, heq']
    exact ⟨h.trim, h.types⟩

namespace ClaimsAhead

variable {writes : List Write}

theorem converter_eq (h : ClaimsAhead extra writes s t) : t.converter = s.converter := by
  unfold converter
  rw [h.rules, h.types]

/-- **A function that is named in both sessions** gets the same name, or a later form in the session
that is ahead. -/
theorem nameFunction (h : ClaimsAhead extra writes s t)
    (hextra : ∀ name ∈ extra, '_' ∉ name.toList) (p : Place) (f : FunctionDecl) :
    NameCounter.Ahead extra (s.nameFunction p (s.writeOf p f).symbol f).2
        (t.nameFunction p (s.writeOf p f).symbol f).2 ∧
      ∀ qualifiedName, Renumbered extra (s.writeOf p f).claimed
        ⟨(s.nameFunction p (s.writeOf p f).symbol f).1, qualifiedName⟩
        ⟨(t.nameFunction p (s.writeOf p f).symbol f).1, qualifiedName⟩ := by
  unfold Session.nameFunction writeOf
  dsimp only
  rw [h.overrides, candidateName_congr h.rules]
  cases s.overrides.get? (SymbolIndex.undecorate s.decoration f.mangledName) with
  | some target => exact ⟨h.counter, fun _ => .kept fun name _ => nofun⟩
  | none =>
    have hplain := underscore_not_mem_candidateName s p f
    refine ⟨h.counter.claim hextra hplain, fun qualifiedName => ?_⟩
    dsimp only
    rw [NameCounter.claim_fst, NameCounter.claim_fst]
    by_cases hname : extra = some (s.candidateName p f)
    · have hcounter := h.counter
      rw [hname] at hcounter
      exact .moved hname rfl hcounter.nextNumber_lt rfl
    · rw [h.counter.nextNumber_eq hextra hplain hname]
      refine .kept fun name hextra hclaimed => ?_
      exact hname (hextra.trans hclaimed.symm)

theorem bindFunction (h : ClaimsAhead extra writes s t)
    (hextra : ∀ name ∈ extra, '_' ∉ name.toList) (p : Place) (d : Decl) (f : FunctionDecl)
    (signature : Signature TargetType) :
    ClaimsAhead extra (writes ++ [t.writeOf p f]) (s.bindFunction p d f signature)
      (t.bindFunction p d f signature) := by
  obtain ⟨hcounter, hrenumbered⟩ := h.nameFunction hextra p f
  have hsymbols := h.symbols.insert (w := s.writeOf p f) (hrenumbered (p.qualified f.displayName))
  have hsymbol : SymbolIndex.undecorate t.decoration f.mangledName =
      (s.writeOf p f).symbol := by
    rw [h.decoration]
    rfl
  rw [writeOf_congr h.rules h.overrides h.decoration]
  unfold Session.bindFunction
  rw [hsymbol]
  exact ⟨h.rules, h.overrides, h.decoration, h.types, hcounter, hsymbols⟩

/-- **A visit keeps a session one claim ahead.** -/
theorem visit (h : ClaimsAhead extra writes s t) (hextra : ∀ name ∈ extra, '_' ∉ name.toList)
    (p : Place) (d : Decl) :
    ClaimsAhead extra (writes ++ (Step.write? ⟨t, p, d⟩).toList) (s.visit p d) (t.visit p d) := by
  by_cases hnames : ∃ f signature, Step.Names ⟨t, p, d⟩ f signature
  · obtain ⟨f, signature, hnames⟩ := hnames
    have hnames' : Step.Names ⟨s, p, d⟩ f signature :=
      ⟨hnames.kind, hnames.holds, hnames.exported, h.converter_eq ▸ hnames.converts⟩
    have ht : t.visit p d = t.bindFunction p d f signature := Step.after_eq_bindFunction hnames
    have hs : s.visit p d = s.bindFunction p d f signature := Step.after_eq_bindFunction hnames'
    rw [Step.write?_eq_some hnames, ht, hs]
    exact h.bindFunction hextra p d f signature
  · have hnone : ∀ f signature, ¬ Step.Names ⟨t, p, d⟩ f signature :=
      fun f signature hnames' => hnames ⟨f, signature, hnames'⟩
    have hnone' : ∀ f signature, ¬ Step.Names ⟨s, p, d⟩ f signature :=
      fun f signature hnames' => hnone f signature
        ⟨hnames'.kind, hnames'.holds, hnames'.exported, h.converter_eq ▸ hnames'.converts⟩
    have htypes : (t.visit p d).types = (s.visit p d).types :=
      (simulation_convertAlike.visit ⟨congrArg PrefixRules.trim h.rules.symm, h.types.symm⟩ p
        d).types.symm
    obtain ⟨types, package, skipped, emitted, ht⟩ := Step.after_of_not_names hnone
    obtain ⟨types', package', skipped', emitted', hs⟩ := Step.after_of_not_names hnone'
    rw [Step.write?_eq_none hnone, Option.toList_none, List.append_nil]
    rw [Step.after] at ht hs
    dsimp only at ht hs
    rw [ht, hs] at htypes ⊢
    exact ⟨h.rules, h.overrides, h.decoration, htypes, h.counter, h.symbols⟩

/-- **A run keeps a session one claim ahead**, by induction on the visits. -/
theorem visitAll (h : ClaimsAhead extra writes s t) (hextra : ∀ name ∈ extra, '_' ∉ name.toList)
    (visits : List (Place × Decl)) :
    ClaimsAhead extra (writes ++ (t.steps visits).filterMap Step.write?) (s.visitAll visits)
      (t.visitAll visits) := by
  induction visits generalizing s t writes with
  | nil =>
    rw [steps, List.filterMap_nil, List.append_nil]
    exact h
  | cons v rest ih =>
    rw [filterMap_steps_cons, ← List.append_assoc]
    exact ih (h.visit hextra v.1 v.2)

end ClaimsAhead

/-! ### Between two declarations

The first declaration, the visits between the two, and the second one. What has to be known of the
visits in between is that they leave the entry of the symbol alone and that no claim is taken back.
-/

theorem Step.Names.exportedSymbol? {v : Step} (h : v.Names f signature)
    (decoration : Option Char) : exportedSymbol? decoration (v.place, v.decl) =
      some (SymbolIndex.undecorate decoration f.mangledName) := by
  unfold Session.exportedSymbol?
  rw [h.kind]
  dsimp only
  rw [h.holds, h.exported]
  rfl

/-- A symbol that no function of some visits has stays as it is in the index. -/
theorem get?_symbols_visitAll {symbol : String} {visits : List (Place × Decl)}
    (h : ∀ v ∈ visits, exportedSymbol? s.decoration v ≠ some symbol) :
    (s.visitAll visits).symbols.get? symbol = s.symbols.get? symbol := by
  refine (steps_induction (motive := fun _ t => t.decoration = s.decoration ∧
    t.symbols.get? symbol = s.symbols.get? symbol) ⟨rfl, rfl⟩ ?_).2
  rintro before v hv ⟨hdecoration, ih⟩
  have hother := h _ (mem_of_mem_steps hv)
  rcases v.after_cases with ⟨f, signature, hnames, hafter⟩ | ⟨_, _, _, _, hafter⟩
  · rw [hnames.exportedSymbol?] at hother
    rw [hafter, Session.bindFunction]
    dsimp only
    rw [hdecoration, OrderedMap.get?_insert, if_neg fun heq => hother (congrArg some heq.symm)]
    exact ⟨rfl, ih⟩
  · rw [hafter]
    exact ⟨hdecoration, ih⟩

/-- A claim counts its own name up, and no name down. -/
theorem count_le_nameFunction (s : Session) (p : Place) (symbol : String) (f : FunctionDecl)
    (name : String) : s.counter.count name ≤ (s.nameFunction p symbol f).2.count name := by
  unfold nameFunction
  split
  · exact Nat.le_refl _
  · rw [NameCounter.count_claim_eq]
    split
    · next hname =>
      rw [hname]
      exact (s.counter.nextNumber_spec _).1.trans (Nat.le_succ _)
    · exact Nat.le_refl _

theorem count_le_visitAll (s : Session) (name : String) (visits : List (Place × Decl)) :
    s.counter.count name ≤ (s.visitAll visits).counter.count name := by
  refine steps_induction (motive := fun _ t => s.counter.count name ≤ t.counter.count name)
    (Nat.le_refl _) ?_
  intro before v _ ih
  rcases v.after_cases with ⟨f, signature, -, hafter⟩ | ⟨_, _, _, _, hafter⟩
  · rw [hafter]
    exact ih.trans (count_le_nameFunction v.session v.place _ f name)
  · rw [hafter]
    exact ih

/-- **A function that is named again gets a later form of its name**, if its symbol is not
overridden. -/
theorem renumbered_nameFunction (hrules : t.rules = s.rules)
    (hoverrides : t.overrides = s.overrides)
    (hcount : ∀ name, (s.nameFunction p (s.writeOf p f).symbol f).2.count name ≤
      t.counter.count name) (qualifiedName : String) :
    Renumbered (s.writeOf p f).claimed (s.writeOf p f).claimed
      ⟨(s.nameFunction p (s.writeOf p f).symbol f).1, qualifiedName⟩
      ⟨(t.nameFunction p (s.writeOf p f).symbol f).1, qualifiedName⟩ := by
  unfold nameFunction writeOf at hcount ⊢
  dsimp only at hcount ⊢
  rw [hoverrides, candidateName_congr hrules]
  cases hoverride : s.overrides.get? (SymbolIndex.undecorate s.decoration f.mangledName) with
  | some target => exact .kept fun name _ => nofun
  | none =>
    rw [hoverride] at hcount
    dsimp only at hcount ⊢
    -- the first of the two claims is counted, and the second one starts behind what is counted
    have hclaimed := hcount (s.candidateName p f)
    rw [NameCounter.count_claim_eq, if_pos rfl] at hclaimed
    rw [NameCounter.claim_fst, NameCounter.claim_fst]
    have hlt := hclaimed.trans (t.counter.nextNumber_spec (s.candidateName p f)).1
    exact .moved rfl rfl hlt rfl

/-- A function of the header itself outside of all records is exported. -/
theorem names_of_free {path : String} (hkind : d.kind = .function f) (hfree : f.kind = .free)
    (hfile : d.file? = some path) (hok : s.converter.signature f.type = .ok signature) :
    Step.Names ⟨s, ⟨path, []⟩, d⟩ f signature where
  kind := hkind
  holds := decide_eq_true hfile
  exported := by
    unfold isExported
    rw [hfree]
    rfl
  converts := hok

/-- A function that is named before some visits can be named again behind them. -/
theorem Step.Names.again (h : Step.Names ⟨s, p, d⟩ f signature) (visits : List (Place × Decl)) :
    Step.Names ⟨s.visitAll visits, p, d⟩ f signature where
  kind := h.kind
  holds := h.holds
  exported := h.exported
  converts := by
    have hknown : s.converter.KnownBy (s.visitAll visits).converter :=
      ⟨rules_visitAll s visits, fun name hmem => mem_types_visitAll hmem visits⟩
    exact Converter.signature_of_knownBy hknown h.converts

/-- **A declaration that is repeated puts the run one claim ahead.** -/
theorem claimsAhead_again (h : Step.Names ⟨s, p, d⟩ f signature) {visits : List (Place × Decl)}
    (hother : ∀ v ∈ visits, exportedSymbol? s.decoration v ≠ some (s.writeOf p f).symbol) :
    ClaimsAhead (s.writeOf p f).claimed [s.writeOf p f] ((s.visit p d).visitAll visits)
      (((s.visit p d).visitAll visits).visit p d) := by
  have hfirst : s.visit p d = s.bindFunction p d f signature := Step.after_eq_bindFunction h
  obtain ⟨t, ht⟩ : ∃ t, t = (s.visit p d).visitAll visits := ⟨_, rfl⟩
  have hrules : t.rules = s.rules := by
    rw [ht, rules_visitAll, rules_visit]
  have hoverrides : t.overrides = s.overrides := by
    rw [ht, overrides_visitAll, overrides_visit]
  have hdecoration : t.decoration = s.decoration := by
    rw [ht, decoration_visitAll, decoration_visit]
  have hentry : t.symbols.get? (s.writeOf p f).symbol =
      some ⟨(s.nameFunction p (s.writeOf p f).symbol f).1, p.qualified f.displayName⟩ := by
    have hkept : ((s.visit p d).visitAll visits).symbols.get? (s.writeOf p f).symbol =
        (s.visit p d).symbols.get? (s.writeOf p f).symbol :=
      get?_symbols_visitAll (by rwa [decoration_visit])
    rw [ht, hkept, hfirst]
    show (s.symbols.insert (s.writeOf p f).symbol _).get? (s.writeOf p f).symbol = _
    rw [OrderedMap.get?_insert, if_pos rfl]
    rfl
  have hcount : ∀ name, (s.nameFunction p (s.writeOf p f).symbol f).2.count name ≤
      t.counter.count name := by
    intro name
    have hle := count_le_visitAll (s.visit p d) name visits
    rw [← ht, hfirst] at hle
    exact hle
  have hagain : Step.Names ⟨t, p, d⟩ f signature := by
    rw [ht]
    exact h.again ((p, d) :: visits)
  have hsecond : t.visit p d = t.bindFunction p d f signature := Step.after_eq_bindFunction hagain
  have hwrite : t.writeOf p f = s.writeOf p f := writeOf_congr hrules hoverrides hdecoration p f
  have hsymbol : SymbolIndex.undecorate t.decoration f.mangledName = (s.writeOf p f).symbol :=
    congrArg Write.symbol hwrite
  rw [← ht, hsecond, Session.bindFunction, hsymbol]
  refine ⟨rfl, rfl, rfl, rfl, ?_, ?_⟩
  · rw [← hwrite]
    exact ahead_nameFunction t p f
  · exact .again hentry (renumbered_nameFunction hrules hoverrides hcount _)

/-! ### Headers

The results on visits are carried over to a header whose declarations are given as lists. A function
is visited and nothing below it, so that a header is split at a declaration as its visits are.
-/

theorem process_eq_visits (s : Session) (path : String) (ds : List Decl) :
    s.process ⟨path, ds⟩ = s.visitAll (Place.visits ⟨path, []⟩ ds) :=
  process_eq_visitAll s ⟨path, ds⟩

theorem visits_function (p : Place) (hkind : d.kind = .function f) : p.visits [d] = [(p, d)] := by
  have hentered : ¬ d.kind.isEntered := by
    rw [hkind]
    exact Bool.false_ne_true
  rw [Place.visits, Place.visitsOf_of_not_isEntered p hentered, Place.visits, List.append_nil]

/-- **A header with a declaration that is repeated puts the run one claim ahead**, up to the end of
the header. -/
theorem claimsAhead_process (s : Session) {path : String} {xs ys zs : List Decl}
    (hkind : d.kind = .function f) (hfree : f.kind = .free) (hfile : d.file? = some path)
    (hconverts : (s.process ⟨path, xs⟩).converter.signature f.type = .ok signature)
    (hys : ∀ v ∈ Place.visits ⟨path, []⟩ ys, exportedSymbol? s.decoration v ≠
      some (SymbolIndex.undecorate s.decoration f.mangledName)) :
    ClaimsAhead (s.writeOf ⟨path, []⟩ f).claimed
      (((s.process ⟨path, xs ++ [d] ++ ys⟩).steps
        (Place.visits ⟨path, []⟩ ([d] ++ zs))).filterMap Step.write?)
      (s.process ⟨path, xs ++ [d] ++ ys ++ zs⟩)
      (s.process ⟨path, xs ++ [d] ++ ys ++ [d] ++ zs⟩) := by
  obtain ⟨t, ht⟩ : ∃ t, t = s.process ⟨path, xs⟩ := ⟨_, rfl⟩
  obtain ⟨u, hu⟩ : ∃ u, u = s.process ⟨path, xs ++ [d] ++ ys⟩ := ⟨_, rfl⟩
  rw [process_eq_visits] at ht hu
  have hsteps : u = (t.visit ⟨path, []⟩ d).visitAll (Place.visits ⟨path, []⟩ ys) := by
    rw [hu, Place.visits_append, Place.visits_append, visitAll_append, visitAll_append,
      visits_function _ hkind, ← ht]
    rfl
  have hfirst : Step.Names ⟨t, ⟨path, []⟩, d⟩ f signature :=
    names_of_free hkind hfree hfile (by rwa [ht, ← process_eq_visits])
  have hsecond : Step.Names ⟨u, ⟨path, []⟩, d⟩ f signature := by
    rw [hsteps]
    exact hfirst.again ((⟨path, []⟩, d) :: _)
  -- the settings of the run are those with which it starts
  have hwrite : ∀ visits, (s.visitAll visits).writeOf ⟨path, []⟩ f = s.writeOf ⟨path, []⟩ f :=
    fun visits => writeOf_visitAll s visits _ f
  have hagain : ClaimsAhead (s.writeOf ⟨path, []⟩ f).claimed [s.writeOf ⟨path, []⟩ f] u
      (u.visit ⟨path, []⟩ d) := by
    rw [hsteps, ← hwrite, ← ht]
    apply claimsAhead_again hfirst
    rwa [ht, hwrite, decoration_visitAll]
  have hwrites : (u.steps (Place.visits ⟨path, []⟩ ([d] ++ zs))).filterMap Step.write? =
      [s.writeOf ⟨path, []⟩ f] ++
        ((u.visit ⟨path, []⟩ d).steps (Place.visits ⟨path, []⟩ zs)).filterMap Step.write? := by
    rw [Place.visits_append, visits_function _ hkind, List.singleton_append, filterMap_steps_cons,
      Step.write?_eq_some hsecond, hu, hwrite]
    rfl
  have honce : s.process ⟨path, xs ++ [d] ++ ys ++ zs⟩ =
      u.visitAll (Place.visits ⟨path, []⟩ zs) := by
    rw [process_eq_visits, Place.visits_append, visitAll_append, ← hu]
  have htwice : s.process ⟨path, xs ++ [d] ++ ys ++ [d] ++ zs⟩ =
      (u.visit ⟨path, []⟩ d).visitAll (Place.visits ⟨path, []⟩ zs) := by
    rw [process_eq_visits, Place.visits_append, Place.visits_append, visitAll_append,
      visitAll_append, visits_function _ hkind, ← hu]
    rfl
  rw [honce, htwice, process_eq_visits, ← hu, hwrites]
  exact hagain.visitAll (underscore_not_mem_claimed s ⟨path, []⟩ f) (Place.visits ⟨path, []⟩ zs)

/-- **A function that is declared again claims one more form of its name, and that is all.** With
the second declaration, the index has the same symbols in the same order, and every symbol has the
same qualified name. If the symbol of the function is overridden, the indexes are the same.
Otherwise the target name of a symbol changes exactly if the last function that is indexed under it,
from the second declaration on, claims the name that the repeated function claims; it is then a form
of that name with a greater number. -/
theorem index_of_redeclared (s : Session) (path : String) (xs ys zs : List Decl) {d : Decl}
    {f : FunctionDecl} {signature : Signature TargetType} (hkind : d.kind = .function f)
    (hfree : f.kind = .free) (hfile : d.file? = some path)
    (hconverts : (s.process ⟨path, xs⟩).converter.signature f.type = .ok signature)
    (hys : ∀ v ∈ Place.visits ⟨path, []⟩ ys, exportedSymbol? s.decoration v ≠
      some (SymbolIndex.undecorate s.decoration f.mangledName)) :
    ((s.overrides.get? (SymbolIndex.undecorate s.decoration f.mangledName)).isSome →
      (s.process ⟨path, xs ++ [d] ++ ys ++ [d] ++ zs⟩).symbols =
        (s.process ⟨path, xs ++ [d] ++ ys ++ zs⟩).symbols) ∧
    (s.process ⟨path, xs ++ [d] ++ ys ++ [d] ++ zs⟩).symbols.keys =
      (s.process ⟨path, xs ++ [d] ++ ys ++ zs⟩).symbols.keys ∧
    ∀ symbol info, (s.process ⟨path, xs ++ [d] ++ ys ++ zs⟩).symbols.get? symbol = some info →
      ∃ info', (s.process ⟨path, xs ++ [d] ++ ys ++ [d] ++ zs⟩).symbols.get? symbol = some info' ∧
        Renumbered (s.writeOf ⟨path, []⟩ f).claimed
          (lastClaim? (((s.process ⟨path, xs ++ [d] ++ ys⟩).steps
            (Place.visits ⟨path, []⟩ ([d] ++ zs))).filterMap Step.write?) symbol) info info' := by
  have hrun : ClaimsAhead (s.writeOf ⟨path, []⟩ f).claimed _
      (s.process ⟨path, xs ++ [d] ++ ys ++ zs⟩)
      (s.process ⟨path, xs ++ [d] ++ ys ++ [d] ++ zs⟩) :=
    claimsAhead_process s hkind hfree hfile hconverts hys
  refine ⟨?_, hrun.symbols.keys, fun symbol info => hrun.symbols.entry⟩
  intro hoverridden
  have hclaimed : (s.writeOf ⟨path, []⟩ f).claimed = none := by
    obtain ⟨target, htarget⟩ := Option.isSome_iff_exists.1 hoverridden
    unfold writeOf
    rw [htarget]
  rw [hclaimed] at hrun
  exact hrun.symbols.eq_of_none

def penUp : Decl := penFunction "pen.h" "pen_up" []

def penDown : Decl := penFunction "pen.h" "pen_down" []

/-- A function with the name of `penUp` and a symbol of its own. -/
def penUpAgain : Decl := penFunction "pen.h" "penUp" []

theorem index_of_redeclared_penUp :
    penUp.file? = some "pen.h" ∧
    ((start {}).process ⟨"pen.h", []⟩).converter.signature ⟨[], false, .builtin .void⟩ =
      .ok ⟨[], false, []⟩ ∧
    (∀ v ∈ Place.visits ⟨"pen.h", []⟩ [penDown], exportedSymbol? (some '_') v ≠ some "pen_up") ∧
    ∃ info', ((start {}).process
        ⟨"pen.h", [] ++ [penUp] ++ [penDown] ++ [penUp] ++ [penUpAgain]⟩).symbols.get? "penUp" =
          some info' ∧
      Renumbered (some "PenUp") (some "PenUp") ⟨"PenUp__1", "penUp()"⟩ info' := by
  have hys : ∀ v ∈ Place.visits ⟨"pen.h", []⟩ [penDown],
      exportedSymbol? (some '_') v ≠ some "pen_up" := by
    decide +kernel
  have hkind : penUp.kind =
      .function ⟨"pen_up", "pen_up()", "pen_up", .free, [], false, .builtin .void⟩ := rfl
  have hconverts : ((start {}).process ⟨"pen.h", []⟩).converter.signature
      ⟨[], false, .builtin .void⟩ = .ok ⟨[], false, []⟩ := rfl
  obtain ⟨-, -, hentry⟩ := index_of_redeclared (start {}) "pen.h" [] [penDown] [penUpAgain] hkind
    rfl rfl hconverts hys
  obtain ⟨info', hget, hrenumbered⟩ :=
    hentry "penUp" ⟨"PenUp__1", "penUp()"⟩ (by decide +kernel)
  refine ⟨rfl, hconverts, hys, info', hget, ?_⟩
  have hclaimed : ((start {}).writeOf ⟨"pen.h", []⟩
      ⟨"pen_up", "pen_up()", "pen_up", .free, [], false, .builtin .void⟩).claimed =
        some "PenUp" := by
    decide +kernel
  have hlast : lastClaim? ((((start {}).process ⟨"pen.h", [] ++ [penUp] ++ [penDown]⟩).steps
      (Place.visits ⟨"pen.h", []⟩ ([penUp] ++ [penUpAgain]))).filterMap Step.write?) "penUp" =
        some "PenUp" := by
    decide +kernel
  rw [hclaimed, hlast] at hrenumbered
  exact hrenumbered

/-- A function that is declared twice in a row is indexed under the second form of its name. -/
theorem penUp_renumbered :
    penUp.file? = some "pen.h" ∧
    ((start {}).process ⟨"pen.h", []⟩).converter.signature ⟨[], false, .builtin .void⟩ =
      .ok ⟨[], false, []⟩ ∧
    ((start {}).process ⟨"pen.h", [] ++ [penUp] ++ [] ++ []⟩).symbols.entries =
      [("pen_up", ⟨"PenUp", "pen_up()"⟩)] ∧
    ((start {}).process ⟨"pen.h", [] ++ [penUp] ++ [] ++ [penUp] ++ []⟩).symbols.entries =
      [("pen_up", ⟨"PenUp__1", "pen_up()"⟩)] :=
  ⟨rfl, rfl, by decide +kernel, by decide +kernel⟩

end Session

end HeaderBindings
