import HeaderBindings.Proofs.Session.Simulation

/-!
# Runs that differ only in the names of functions

The replacements of prefixes, the overrides and the counter choose names for functions and nothing
else. Two sessions that agree on everything but those, and on everything they have found out but the
names of functions, still do so after any run over the same headers.

Packages and indexes are compared after the names have been taken out of them, which is a function
on each (`Package.unnamed`, and the qualified names of an index). Adding a binding and taking out
names can be done in any order, so that two packages that were equal without names stay equal when a
function is bound under one name here and under another one there. What a session counts for names
is not compared at all.
-/

namespace HeaderBindings

/-! ### Packages without the names of functions

The receiver is part of the name of a function, and is taken out with it.
-/

/-- The binding without the name of a function. -/
def Binding.unnamed : Binding → Binding
  | .function b => .function { b with name := ⟨none, ""⟩ }
  | .type b => .type b
  | .const b => .const b

/-- The package without the names of functions. -/
def Package.unnamed (p : Package) : Package := ⟨p.byHeader.mapValues (List.map Binding.unnamed)⟩

namespace Package

theorem unnamed_push (p : Package) (header : String) (b : Binding) :
    (p.push header b).unnamed = p.unnamed.push header b.unnamed := by
  unfold unnamed push
  rw [OrderedMap.mapValues_insert, OrderedMap.get?_mapValues, List.map_append]
  cases p.byHeader.get? header <;> rfl

theorem unnamed_foldl_push (header : String) (bindings : List Binding) (p : Package) :
    (bindings.foldl (·.push header ·) p).unnamed =
      (bindings.map Binding.unnamed).foldl (·.push header ·) p.unnamed := by
  induction bindings generalizing p with
  | nil => rfl
  | cons b rest ih => rw [List.foldl_cons, List.map_cons, List.foldl_cons, ih, unnamed_push]

end Package

/-- Two sessions that agree on everything but what chooses the names of functions, and on everything
they have found out but these names. -/
structure AlikeButNames (s t : Session) : Prop extends Session.ConvertAlike s t where
  decoration : s.decoration = t.decoration
  qualified : s.symbols.mapValues SymbolInfo.qualifiedName =
    t.symbols.mapValues SymbolInfo.qualifiedName
  package : s.package.unnamed = t.package.unnamed
  skipped : s.skipped = t.skipped
  emitted : s.emitted = t.emitted

namespace AlikeButNames

variable {s t : Session}

/-! ### Steps of a visit

Each of the steps changes a few fields of a session; all others are alike because they were before.
-/

theorem withTypes (h : AlikeButNames s t) (types : Registry) :
    AlikeButNames { s with types } { t with types } :=
  ⟨⟨h.trim, rfl⟩, h.decoration, h.qualified, h.package, h.skipped, h.emitted⟩

theorem skip (h : AlikeButNames s t) (p : Place) (d : Decl) (label : String)
    (cause : ConversionError) :
    AlikeButNames (s.skip p d label cause) (t.skip p d label cause) := by
  rw [Session.skip_eq, Session.skip_eq, h.skipped]
  exact ⟨⟨h.trim, h.types⟩, h.decoration, h.qualified, h.package, rfl, h.emitted⟩

theorem push (h : AlikeButNames s t) (header : String) {b b' : Binding}
    (hb : b.unnamed = b'.unnamed) :
    (s.package.push header b).unnamed = (t.package.push header b').unnamed := by
  rw [Package.unnamed_push, Package.unnamed_push, h.package, hb]

theorem emitType (h : AlikeButNames s t) (p : Place) (d : Decl) (target : String) :
    AlikeButNames (s.emitType p d target) (t.emitType p d target) := by
  have hcontains : s.emitted.contains target = t.emitted.contains target := by rw [h.emitted]
  have hget : s.types.get? target = t.types.get? target := by rw [h.types]
  unfold Session.emitType
  rw [hcontains, hget]
  split
  · split
    · exact ⟨⟨h.trim, h.types⟩, h.decoration, h.qualified, h.push p.file rfl, h.skipped,
        congrArg (target :: ·) h.emitted⟩
    · exact h
  · exact h

/-- Whatever names two sessions give to a function, they index it at the same place and bind it
alike. -/
theorem bindFunction (h : AlikeButNames s t) (p : Place) (d : Decl) (f : FunctionDecl)
    (signature : Signature TargetType) :
    AlikeButNames (s.bindFunction p d f signature) (t.bindFunction p d f signature) := by
  have hsymbol : SymbolIndex.undecorate s.decoration f.mangledName =
      SymbolIndex.undecorate t.decoration f.mangledName := by rw [h.decoration]
  unfold Session.bindFunction
  rw [hsymbol]
  refine ⟨⟨h.trim, h.types⟩, h.decoration, ?_, ?_, h.skipped, h.emitted⟩
  · dsimp only
    rw [OrderedMap.mapValues_insert, OrderedMap.mapValues_insert, h.qualified]
  · -- the bindings differ in the name only, which does not show in an unnamed package
    dsimp only
    split
    · exact h.push p.file rfl
    · exact h.package

theorem bindEnumerators (h : AlikeButNames s t) (p : Place) (d : Decl) (name : Option String)
    (items : List (Enumerator × Int64)) :
    AlikeButNames (s.bindEnumerators p d name items) (t.bindEnumerators p d name items) := by
  have hname : s.enumeratorName name = t.enumeratorName name :=
    funext fun item => h.enumeratorName name item
  unfold Session.bindEnumerators
  rw [hname]
  split
  · refine ⟨⟨h.trim, h.types⟩, h.decoration, h.qualified, ?_, h.skipped, h.emitted⟩
    dsimp only
    rw [Package.unnamed_foldl_push, Package.unnamed_foldl_push, h.package]
  · exact h

/-- **Every step of a visit keeps two sessions alike but for the names of functions.** -/
theorem simulation : Session.Simulation AlikeButNames where
  alike h := h.toConvertAlike
  withTypes h types := h.withTypes types
  skip h p d label cause := h.skip p d label cause
  emitType h p d target := h.emitType p d target
  bindFunction h p d f signature := h.bindFunction p d f signature
  bindEnumerators h p d name items := h.bindEnumerators p d name items

/-- Options that agree on what is trimmed and on decoration start sessions that are alike. -/
theorem start (options : SessionOptions) (replPrefixes : List String)
    (overrides : OrderedMap String String) :
    AlikeButNames (.start options) (.start { options with replPrefixes, overrides }) :=
  ⟨⟨PrefixRules.trim_ofLists _ _ _, rfl⟩, rfl, rfl, rfl, rfl, rfl⟩

end AlikeButNames

/-- **Replacements and overrides choose the names of functions and nothing else.** Whatever
replacements and overrides take the place of those of a run, the run over the same headers registers
the same types, makes the same reports and indexes the same symbols in the same order, with the same
qualified names; and it leaves the same package but for the names of the bound functions. -/
theorem Session.same_but_for_function_names (options : SessionOptions) (replPrefixes : List String)
    (overrides : OrderedMap String String) (units : List HeaderUnit) :
    ((start { options with replPrefixes, overrides }).processAll units).types =
      ((start options).processAll units).types ∧
    ((start { options with replPrefixes, overrides }).processAll units).skipped =
      ((start options).processAll units).skipped ∧
    ((start { options with replPrefixes, overrides }).processAll units).symbols.entries.map
        (fun e => (e.1, e.2.qualifiedName)) =
      ((start options).processAll units).symbols.entries.map (fun e => (e.1, e.2.qualifiedName)) ∧
    ((start { options with replPrefixes, overrides }).processAll units).package.unnamed =
      ((start options).processAll units).package.unnamed := by
  have h := AlikeButNames.simulation.processAll
    (AlikeButNames.start options replPrefixes overrides) units
  have hqualified := congrArg OrderedMap.entries h.qualified
  exact ⟨h.types.symm, h.skipped.symm, hqualified.symm, h.package.symm⟩

end HeaderBindings
