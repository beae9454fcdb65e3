import HeaderBindings.Proofs.Session.Conservation

/-!
# The index and the bindings agree

An exported function is written into the index, and then it is bound under the name with which it
was written. A symbol that is written again loses its older entry but keeps its older binding, and
bindings are kept header by header, so the two do not show the same list. What they have in common
is seen in the order in which the bindings are made: the entry of a symbol has the name of the last
binding that is linked by it (`index_agrees`).

The comparison is made step by step. A step that binds a function writes the symbol of that
function, under the name from which the name of the binding is read; any other step does neither
(`Step.WritesAlike`). So after each step the last binding of a symbol and its entry are of the same
step. The package of a run does not show the order of steps, but it can be built again from them
(`package_visitAll`), which is why the statement lists the bindings by steps.
-/

namespace HeaderBindings

namespace Session

/-! ### The bindings of a step

A step adds its bindings behind those of its header, so they can be read off from the two sessions.
-/

namespace Step

/-- The bindings that a step makes, in order: those that come behind the older ones of
its header. -/
def bindings (v : Step) : List Binding :=
  (v.after.package.bound v.place.file).drop (v.session.package.bound v.place.file).length

/-- The functions that a step binds. -/
def functions (v : Step) : List FunctionBinding := v.bindings.filterMap Binding.function?

variable {v : Step}

/-- The bindings of a step are what it adds to the package. -/
theorem bindings_eq {added : List Binding}
    (h : v.after.package = v.session.package.pushAll v.place.file added) : v.bindings = added := by
  unfold bindings
  rw [h, Package.bound_pushAll, if_pos rfl, List.drop_left]

/-- A step adds its bindings to those of its header and changes no others. -/
theorem package_after (v : Step) :
    v.after.package = v.session.package.pushAll v.place.file v.bindings := by
  obtain ⟨added, hadded⟩ := (outcome_visit v.session v.place v.decl).package
  rw [bindings_eq hadded]
  exact hadded

/-- A step writes no symbol and binds no function, or it writes one symbol and binds one function,
linked by that symbol and under the name that is written. -/
inductive WritesAlike (v : Step) : Prop where
  | none : v.functions = [] → v.after.symbols = v.session.symbols → WritesAlike v
  | one {b : FunctionBinding} {info : SymbolInfo} : v.functions = [b] →
    b.name = .ofString info.targetName →
    v.after.symbols = v.session.symbols.insert b.linkName info → WritesAlike v

theorem writesAlike_of_bindFunction {f : FunctionDecl} {signature : Signature TargetType}
    (hemits : v.place.emits)
    (h : v.after = v.session.bindFunction v.place v.decl f signature) : v.WritesAlike := by
  obtain ⟨target, hadds⟩ := adds_bindFunction (d := v.decl) hemits f signature
  rw [← h] at hadds
  have hfunctions : v.functions = [⟨.ofString target,
      SymbolIndex.undecorate v.session.decoration f.mangledName, signature, v.decl.doc⟩] := by
    rw [functions, bindings_eq hadds.package]
    rfl
  have hsymbols : v.after.symbols = v.session.symbols.insert
      (SymbolIndex.undecorate v.session.decoration f.mangledName)
      ⟨target, v.place.qualified f.displayName⟩ := hadds.symbols
  exact .one hfunctions rfl hsymbols

/-- **Where bindings are made, every step writes into the index what it binds.** -/
theorem writesAlike (hemits : v.place.emits) : v.WritesAlike := by
  have houtcome : Outcome v.session v.place v.decl v.after := outcome_visit _ _ _
  by_cases hkind : ∃ f, v.decl.kind = .function f
  · obtain ⟨f, hkind⟩ := hkind
    rcases houtcome.of_function hkind with ⟨skipped, heq⟩ | ⟨signature, -, -, heq⟩
    · have hpackage : v.after.package = v.session.package.pushAll v.place.file [] := by
        rw [heq]
        rfl
      refine .none ?_ (by rw [heq])
      rw [functions, bindings_eq hpackage, List.filterMap_nil]
    · exact writesAlike_of_bindFunction hemits heq
  · have hother : ∀ f, v.decl.kind ≠ .function f := fun f hf => hkind ⟨f, hf⟩
    obtain ⟨added, hadded, hpackage⟩ := houtcome.package_of_not_function hother
    refine .none ?_ (houtcome.symbols_of_not_function hother)
    rw [functions, bindings_eq hpackage]
    exact List.filterMap_eq_nil_iff.2 hadded

end Step

/-! ### The bindings of a run

Bindings of one header stay in the order of their steps, while those of different headers are put
apart.
-/

/-- The package to which steps lead if each of them adds its bindings to those of its header. -/
def rebuild (p : Package) (steps : List Step) : Package :=
  steps.foldl (fun p v => p.pushAll v.place.file v.bindings) p

/-- **The bindings of a run are those of its steps, in order.** -/
theorem package_visitAll (s : Session) (visits : List (Place × Decl)) :
    (s.visitAll visits).package = rebuild s.package (s.steps visits) := by
  refine steps_induction (motive := fun before t => t.package = rebuild s.package before) rfl ?_
  intro before v _ hbefore
  rw [v.package_after, hbefore, rebuild, rebuild, List.foldl_append]
  rfl

/-- A function is bound in the end if a step binds it or it was bound at first. -/
theorem mem_functions_rebuild {p : Package} {steps : List Step} {b : FunctionBinding} :
    b ∈ (rebuild p steps).functions ↔ b ∈ steps.flatMap Step.functions ∨ b ∈ p.functions := by
  unfold rebuild
  induction steps generalizing p with
  | nil => simp
  | cons v rest ih =>
    -- new functions stand among the older ones of their header, behind those of earlier headers
    have hpush := (p.functions_pushAll_perm v.place.file v.bindings).mem_iff (a := b)
    rw [List.foldl_cons, ih, hpush, List.mem_append, List.flatMap_cons, List.mem_append]
    show _ ↔ (b ∈ v.functions ∨ _) ∨ _
    rw [or_left_comm, ← or_assoc]
    rfl

/-! ### The last binding of a symbol

Both the index and the list of bindings are followed from their ends: an entry is written over, and
a later binding of the symbol takes the place of an earlier one as the last.
-/

/-- The last of some bindings that is linked by a symbol. -/
def lastLinked? (bound : List FunctionBinding) (symbol : String) : Option FunctionBinding :=
  (bound.filter (·.linkName = symbol)).getLast?

/-- One more binding is the last one of its symbol and changes nothing for others. -/
theorem lastLinked?_concat (bound : List FunctionBinding) (b : FunctionBinding) (symbol : String) :
    lastLinked? (bound ++ [b]) symbol =
      if b.linkName = symbol then some b else lastLinked? bound symbol := by
  unfold lastLinked?
  rw [List.filter_append]
  split
  · next hlink => simp [hlink]
  · next hlink => simp [hlink]

/-- An index has an entry for every symbol by which a function is linked, with the name of the last
of these functions. -/
structure Agrees (index : SymbolIndex) (bound : List FunctionBinding) : Prop where
  last : ∀ {symbol info}, index.get? symbol = some info →
    ∃ b, lastLinked? bound symbol = some b ∧ b.name = .ofString info.targetName
  indexed : ∀ b ∈ bound, b.linkName ∈ index

namespace Agrees

variable {s : Session} {index : SymbolIndex} {bound : List FunctionBinding}

theorem insert (h : Agrees index bound) {b : FunctionBinding} {info : SymbolInfo}
    (hname : b.name = .ofString info.targetName) :
    Agrees (index.insert b.linkName info) (bound ++ [b]) where
  last := by
    intro symbol info' hget
    rw [OrderedMap.get?_insert] at hget
    rw [lastLinked?_concat]
    -- the entry is the new one exactly if the last binding is
    by_cases hlink : symbol = b.linkName
    · rw [if_pos hlink] at hget
      cases hget
      rw [if_pos hlink.symm]
      exact ⟨b, rfl, hname⟩
    · rw [if_neg hlink] at hget
      rw [if_neg (Ne.symm hlink)]
      exact h.last hget
  indexed := by
    intro other hother
    rw [OrderedMap.mem_insert]
    rcases List.mem_append.1 hother with hother | hother
    · exact .inr (h.indexed other hother)
    · rw [List.mem_singleton.1 hother]
      exact .inl rfl

theorem after {v : Step} (h : Agrees v.session.symbols bound) (hemits : v.place.emits) :
    Agrees v.after.symbols (bound ++ v.functions) := by
  cases Step.writesAlike hemits with
  | none hfunctions hsymbols =>
    rw [hfunctions, hsymbols, List.append_nil]
    exact h
  | one hfunctions hname hsymbols =>
    rw [hfunctions, hsymbols]
    exact h.insert hname

/-- **Visits keep the index and the bindings in agreement.** -/
theorem visitAll (h : Agrees s.symbols []) {visits : List (Place × Decl)}
    (hemits : ∀ v ∈ visits, v.1.emits) :
    Agrees (s.visitAll visits).symbols ((s.steps visits).flatMap Step.functions) := by
  refine steps_induction
    (motive := fun before t => Agrees t.symbols (before.flatMap Step.functions)) h ?_
  intro before v hv hbefore
  rw [List.flatMap_append, List.flatMap_singleton]
  have hplace : v.place.emits := hemits (v.place, v.decl) (mem_of_mem_steps hv)
  exact after hbefore hplace

end Agrees

theorem emits_of_mem_visits {units : List HeaderUnit}
    (h : ∀ u ∈ units, ¬ Catalog.isKnownHeader u.path) :
    ∀ v ∈ units.flatMap HeaderUnit.visits, v.1.emits := by
  intro v hv
  obtain ⟨u, hu, hv⟩ := List.mem_flatMap.1 hv
  have hfile : v.1.file = u.path := Place.file_of_mem_visits ⟨u.path, []⟩ u.decls v hv
  unfold Place.emits
  rw [hfile]
  simpa using h u hu

/-- **The index and the bindings agree.**

After any run over headers for which bindings are made, the entry of every symbol has the name of
the function that was bound last with that symbol, read back, where the bindings are taken in the
order in which the steps of the run make them, which leads to the package of the run. And every
bound function is linked by a symbol of the index. -/
theorem index_agrees (options : SessionOptions) (units : List HeaderUnit)
    (hpaths : ∀ u ∈ units, ¬ Catalog.isKnownHeader u.path) :
    let run := (start options).processAll units
    let steps := (start options).steps (units.flatMap HeaderUnit.visits)
    run.package = rebuild {} steps ∧
    (∀ symbol info, run.symbols.get? symbol = some info →
      ∃ b, lastLinked? (steps.flatMap Step.functions) symbol = some b ∧
        b.name = .ofString info.targetName) ∧
    ∀ b ∈ run.package.functions, b.linkName ∈ run.symbols := by
  have hstart : Agrees (start options).symbols [] :=
    ⟨fun h => (nomatch h), fun b hb => (nomatch hb)⟩
  have hagrees := hstart.visitAll (emits_of_mem_visits hpaths)
  rw [← processAll_eq_visitAll] at hagrees
  have hpackage : ((start options).processAll units).package =
      rebuild {} ((start options).steps (units.flatMap HeaderUnit.visits)) := by
    rw [processAll_eq_visitAll]
    exact package_visitAll (start options) _
  refine ⟨hpackage, fun symbol info hget => hagrees.last hget, ?_⟩
  intro b hb
  -- the package keeps the functions of the steps, if not in their order
  rw [hpackage, mem_functions_rebuild] at hb
  rcases hb with hb | hb
  · exact hagrees.indexed b hb
  · cases hb

def paintFunction (header name : String) : Decl where
  kind := .function
    { name, displayName := name ++ "()", mangledName := "paint", kind := .free
      type := { params := [], result := .builtin .void } }
  location := { file := some header }

/-- Two headers with functions of one symbol, the first of which is walked through again, with
another function. -/
def paintUnits : List HeaderUnit :=
  [⟨"oil.h", [paintFunction "oil.h" "paint"]⟩, ⟨"water.h", [paintFunction "water.h" "wash"]⟩,
    ⟨"oil.h", [paintFunction "oil.h" "glaze"]⟩]

theorem index_agrees_paint :
    (∀ u ∈ paintUnits, ¬ Catalog.isKnownHeader u.path) ∧
    ((start {}).processAll paintUnits).package.functions.map (fun b => b.name.render) =
      ["Paint", "Glaze", "Wash"] ∧
    ∃ b, lastLinked? (((start {}).steps (paintUnits.flatMap HeaderUnit.visits)).flatMap
        Step.functions) "paint" = some b ∧ b.name = ⟨none, "Glaze"⟩ := by
  have hpaths : ∀ u ∈ paintUnits, ¬ Catalog.isKnownHeader u.path := by decide +kernel
  have hget : ((start {}).processAll paintUnits).symbols.get? "paint" =
      some ⟨"Glaze", "glaze()"⟩ := by decide +kernel
  obtain ⟨b, hlast, hname⟩ := (index_agrees {} paintUnits hpaths).2.1 "paint" _ hget
  have hread : FunctionName.ofString "Glaze" = ⟨none, "Glaze"⟩ := by decide +kernel
  exact ⟨hpaths, by decide +kernel, b, hlast, hname.trans hread⟩

end Session

end HeaderBindings
