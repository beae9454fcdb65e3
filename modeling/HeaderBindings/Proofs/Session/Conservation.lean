import HeaderBindings.Proofs.Session.NameKinds
import HeaderBindings.Proofs.Session.Returning
import Mathlib.Data.List.Forall2
import Mathlib.Data.List.Nodup

/-!
# Nothing is lost and nothing counts twice

A walk accounts for every declaration that it visits. One of the header itself is reported, or what
its kind asks for is bound: a function with an entry of the index, the enumerators of an enumeration
in order, a type unless it is bound already. Nothing comes of any other. What the visits give, one
after the other, is all that the walk adds to the session (`process_conserves`).

What a visit gives is a `Yield`, and what a declaration asks for is `Settles`. The two meet in
`Step.Yields`: every way in which a visit may end (`Outcome`) settles its declaration
(`Outcome.settles`), and by induction on the visits their yields add up to what the whole walk adds
(`TalliesTypes.exists_yields_visitAll`). That a type is bound exactly once is an invariant of the
session beside it, `TalliesTypes`: what counts as bound are the names of the bound types.

All of this is about walks that return (`Session.Returns`). A walk that measures a type that
contains itself by value never does, and the declarations behind are not accounted for.
-/

namespace HeaderBindings

namespace Enumeration

/-! ### Enumerators and their values -/

/-- As many values are found as there are enumerators. -/
theorem length_valuesFrom {earlier : Earlier} {next : Int64} {items : List Enumerator}
    {values : List Int64} (h : valuesFrom earlier next items = .ok values) :
    values.length = items.length := by
  induction items generalizing earlier next values with
  | nil =>
    cases h
    rfl
  | cons item rest ih =>
    obtain ⟨n, -, h⟩ := Converter.Result.of_bind_eq_ok h
    obtain ⟨others, hothers, h⟩ := Converter.Result.of_bind_eq_ok h
    cases h
    rw [List.length_cons, List.length_cons, ih hothers]

end Enumeration

namespace Session

variable {s t u : Session} {p : Place} {d : Decl} {file : String}

/-! ### What visits give

A yield is what a visit leaves in the three parts of a session that are shown at the end: bindings,
reports and the index. Bindings and reports are lists that grow at the end, so yields are put one
behind the other. The index is a map, in which an entry replaces the one of its symbol, so the
entries of a yield are written into it in order.
-/

/-- What a visit gives: bindings of its header, reports, and entries of the index. -/
structure Yield where
  bindings : List Binding := []
  reports : List SkippedDecl := []
  entries : List (String × SymbolInfo) := []

/-- What several visits give, one after the other. -/
def Yield.all (yields : List Yield) : Yield where
  bindings := yields.flatMap Yield.bindings
  reports := yields.flatMap Yield.reports
  entries := yields.flatMap Yield.entries

/-- A session shows what another one shows and, behind it, what is given for a header. An entry is
written over the one that its symbol has. -/
structure Adds (s t : Session) (file : String) (y : Yield) : Prop where
  package : t.package = s.package.pushAll file y.bindings
  skipped : t.skipped = s.skipped ++ y.reports
  symbols : t.symbols = s.symbols.insertAll y.entries

namespace Adds

/-- A session shows what it shows itself. -/
theorem refl (s : Session) (file : String) : s.Adds s file {} :=
  ⟨rfl, (List.append_nil _).symm, rfl⟩

/-- What two sessions in a row add, they add together. -/
theorem trans {y z : Yield} (h : s.Adds t file y) (h' : t.Adds u file z) :
    s.Adds u file ⟨y.bindings ++ z.bindings, y.reports ++ z.reports, y.entries ++ z.entries⟩ where
  package := by rw [h'.package, h.package, Package.pushAll_pushAll]
  skipped := by rw [h'.skipped, h.skipped, List.append_assoc]
  symbols := by
    rw [h'.symbols, h.symbols]
    exact List.foldl_append.symm

end Adds

/-! ### What becomes of a declaration

One predicate for each way in which a declaration may be settled. Each fixes the yield as a whole,
by an equation, so that a declaration which is bound is not reported as well and nothing else is
bound along with it.
-/

/-- The declaration is reported, and that is all. -/
def ReportedOnce (s : Session) (p : Place) (d : Decl) (y : Yield) : Prop :=
  ∃ label cause, s.FailsAt p d label cause ∧ y = { reports := [⟨label, p.file, cause⟩] }

/-- The function is bound and its symbol is written, and that is all. -/
def FunctionBoundOnce (s : Session) (p : Place) (d : Decl) (f : FunctionDecl) (y : Yield) : Prop :=
  ∃ target signature, s.converter.signature f.type = .ok signature ∧
    let symbol := SymbolIndex.undecorate s.decoration f.mangledName
    y = {
      bindings := [.function ⟨.ofString target, symbol, signature, d.doc⟩]
      entries := [(symbol, ⟨target, p.qualified f.displayName⟩)] }

/-- The types that a declaration may bind: the one that it declares, or none if that is bound
already. -/
def OwnTypes (s : Session) (d : Decl) (types : List TypeBinding) : Prop :=
  types = [] ∨ ∃ b, types = [b] ∧ s.declaredType? d = some b.name

/-- The type of the declaration may be bound, and that is all. -/
def TypeBound (s : Session) (d : Decl) (y : Yield) : Prop :=
  ∃ types, s.OwnTypes d types ∧ y = { bindings := types.map .type }

/-- The type of the enumeration may be bound, then each enumerator is in order, and that is all. -/
def EnumeratorsBound (s : Session) (d : Decl) (name : Option String) (items : List Enumerator)
    (y : Yield) : Prop :=
  ∃ types values, s.OwnTypes d types ∧ Enumeration.values items = .ok values ∧
    values.length = items.length ∧
    y = {
      bindings := types.map .type ++ (items.zip values).map fun e =>
        .const ⟨s.enumeratorName name e.1.name, e.2, Catalog.enumType⟩ }

/-- What becomes of a declaration of the header, by its kind. -/
def Settles (s : Session) (p : Place) (d : Decl) (y : Yield) : Prop :=
  match d.kind with
  | .function f =>
    if isExported f d then s.ReportedOnce p d y ∨ s.FunctionBoundOnce p d f y else y = {}
  | .enum name items => s.ReportedOnce p d y ∨ s.EnumeratorsBound d name items y
  | .record _ _ _ | .typedef _ _ =>
    if (s.declaredType? d).isSome then s.ReportedOnce p d y ∨ s.TypeBound d y else y = {}
  | .scope _ | .linkage | .unknown _ => y = {}

/-- A type is registered, and exactly one binding of all headers binds it. -/
structure HasTypeOnce (s : Session) (target : String) : Prop where
  registered : target ∈ s.types
  bound : (s.package.types.map TypeBinding.name).count target = 1

/-- A visit gives what becomes of its declaration, and nothing else. -/
structure Step.Yields (v : Step) (y : Yield) : Prop where
  adds : v.session.Adds v.after v.place.file y
  settles : v.place.holds v.decl → v.session.Settles v.place v.decl y
  /-- A declaration of another header is left to the walk through that header. -/
  elsewhere : ¬ v.place.holds v.decl → y = {}
  /-- A type of the header that is not reported is there when the visit ends. -/
  type : v.place.holds v.decl → ∀ target, v.session.declaredType? v.decl = some target →
    y.reports = [] → v.after.HasTypeOnce target

/-! ### Every visit settles its declaration

By the outcomes of a visit. The yield of a type is either the binding of the type or nothing, if it
is bound already, and enumerators come behind the type of their enumeration.
-/

theorem Passes.settles (h : s.Passes p d) (hholds : p.holds d) : s.Settles p d {} := by
  have hnone := h.declaredType?_eq_none
  unfold Settles
  cases h with
  | scope hkind | linkage hkind | unknown hkind => rw [hkind]
  | hiddenFunction hkind hhidden =>
    have hnot : ¬ isExported _ d := fun hexported => hhidden ⟨hholds, hexported⟩
    rw [hkind]
    dsimp only
    rw [if_neg hnot]
  | unnamedRecord hkind | knownTypedef hkind | renamedTag hkind =>
    rw [hkind, hnone]
    rfl

/-- A declaration is settled if its conversion fails and is reported. -/
theorem FailsAt.settles {label : String} {cause : ConversionError}
    (h : s.FailsAt p d label cause) :
    s.Settles p d { reports := [⟨label, p.file, cause⟩] } := by
  have hreported : s.ReportedOnce p d { reports := [⟨label, p.file, cause⟩] } :=
    ⟨label, cause, h, rfl⟩
  unfold Settles
  cases h with
  | function hkind hexported =>
    rw [hkind]
    dsimp only
    rw [if_pos hexported]
    exact .inl hreported
  | record hkind hname =>
    rw [hkind, declaredType?_record hkind hname]
    exact .inl hreported
  | typedef htypedef =>
    rw [htypedef.kind, htypedef.declaredType?_eq]
    exact .inl hreported
  | enum hkind =>
    rw [hkind]
    exact .inl hreported

/-- A record and a typedef are settled if no more than their type is bound. -/
theorem exists_settles_of_types {target : String} (htarget : s.declaredType? d = some target)
    (hkind : (∃ name tag body, d.kind = .record name tag body) ∨
      ∃ name underlying, d.kind = .typedef name underlying)
    (h : ∃ types, s.OwnTypes d types ∧ s.Adds t p.file { bindings := types.map .type }) :
    ∃ y, s.Adds t p.file y ∧ s.Settles p d y := by
  obtain ⟨types, htypes, hadds⟩ := h
  have hbound : s.TypeBound d { bindings := types.map .type } := ⟨types, htypes, rfl⟩
  refine ⟨_, hadds, ?_⟩
  unfold Settles
  rcases hkind with ⟨name, tag, body, hkind⟩ | ⟨name, underlying, hkind⟩
  · rw [hkind, htarget]
    exact .inr hbound
  · rw [hkind, htarget]
    exact .inr hbound

/-- Binding a registered type gives its binding at most. -/
theorem exists_adds_emitType {target : String} (htarget : s.declaredType? d = some target)
    (p : Place) :
    ∃ types, s.OwnTypes d types ∧
      s.Adds (s.emitType p d target) p.file { bindings := types.map .type } := by
  rcases emitType_cases s p d target with heq | ⟨declared, -, -, -, -, heq⟩
  · rw [heq]
    exact ⟨[], .inl rfl, .refl s p.file⟩
  · rw [heq]
    exact ⟨[_], .inr ⟨⟨target, _, _, _⟩, rfl, htarget⟩, rfl, (List.append_nil _).symm, rfl⟩

/-- Registering a type gives nothing by itself, and binding it gives its binding at most. -/
theorem exists_adds_declareType {target : String} (htarget : s.declaredType? d = some target)
    (p : Place) (type : DeclaredType) :
    ∃ types, s.OwnTypes d types ∧
      s.Adds (s.declareType p d target type) p.file { bindings := types.map .type } := by
  -- the names of types do not depend on what is registered, which is no part of what is added
  obtain ⟨types, htypes, hadds⟩ :=
    exists_adds_emitType (s := { s with types := s.types.register target type }) htarget p
  exact ⟨types, htypes, hadds.package, hadds.skipped, hadds.symbols⟩

/-- So does declaring an enumeration, with or without a name. -/
theorem exists_adds_declareEnum {name : Option String} {items : List Enumerator}
    (hkind : d.kind = .enum name items) (p : Place) :
    ∃ types, s.OwnTypes d types ∧
      s.Adds (s.declareEnum p d name) p.file { bindings := types.map .type } := by
  have htarget := declaredType?_enum (s := s) hkind
  unfold declareEnum
  split
  · next hname =>
    rw [hname] at htarget
    exact exists_adds_declareType htarget p _
  · exact ⟨[], .inl rfl, .refl s p.file⟩

/-- A function gives its binding and the entry of its symbol. -/
theorem adds_bindFunction (hemits : p.emits) (f : FunctionDecl)
    (signature : Signature TargetType) :
    ∃ target,
      let symbol := SymbolIndex.undecorate s.decoration f.mangledName
      s.Adds (s.bindFunction p d f signature) p.file {
        bindings := [.function ⟨.ofString target, symbol, signature, d.doc⟩]
        entries := [(symbol, ⟨target, p.qualified f.displayName⟩)] } := by
  refine ⟨(s.nameFunction p (SymbolIndex.undecorate s.decoration f.mangledName) f).1, ?_⟩
  unfold bindFunction
  refine ⟨?_, (List.append_nil _).symm, rfl⟩
  dsimp only
  rw [if_pos hemits]
  rfl

/-- Declaring an enumeration does not change the names of its enumerators. -/
theorem enumeratorName_declareEnum (s : Session) (p : Place) (d : Decl) (name : Option String) :
    (s.declareEnum p d name).enumeratorName = s.enumeratorName := by
  obtain ⟨types, emitted, package, h⟩ := declareEnum_eq s p d name
  rw [h]
  rfl

/-- Enumerators give their bindings, in order. -/
theorem adds_bindEnumerators (hemits : p.emits) (hholds : p.holds d) (name : Option String)
    (items : List (Enumerator × Int64)) :
    s.Adds (s.bindEnumerators p d name items) p.file {
      bindings := items.map fun e =>
        .const ⟨s.enumeratorName name e.1.name, e.2, Catalog.enumType⟩ } := by
  have hpackage := package_bindEnumerators s p d name items
  rw [if_pos (Bool.and_eq_true_iff.2 ⟨hemits, hholds⟩)] at hpackage
  obtain ⟨package, heq⟩ := bindEnumerators_eq s p d name items
  refine ⟨hpackage, ?_, ?_⟩
  · rw [heq]
    exact (List.append_nil _).symm
  · rw [heq]
    rfl

/-- **Every declaration of the header is settled** by its visit. -/
theorem Outcome.settles (h : Outcome s p d t) (hemits : p.emits) (hholds : p.holds d) :
    ∃ y, s.Adds t p.file y ∧ s.Settles p d y := by
  cases h with
  | passed hpasses => exact ⟨{}, .refl s p.file, hpasses.settles hholds⟩
  | failed hfails =>
    refine ⟨_, ?_, hfails.settles⟩
    rw [skip_eq, if_pos hholds]
    exact ⟨rfl, rfl, rfl⟩
  | @function f signature hkind _ hexported hok =>
    obtain ⟨target, hadds⟩ := adds_bindFunction (s := s) (d := d) hemits f signature
    refine ⟨_, hadds, ?_⟩
    unfold Settles
    rw [hkind]
    dsimp only
    rw [if_pos hexported]
    exact .inr ⟨target, signature, hok, rfl⟩
  | takenRecord hkind hname =>
    have htarget := declaredType?_record (s := s) hkind hname
    exact exists_settles_of_types htarget (.inl ⟨_, _, _, hkind⟩) (exists_adds_emitType htarget p)
  | record hkind hname =>
    have htarget := declaredType?_record (s := s) hkind hname
    exact exists_settles_of_types htarget (.inl ⟨_, _, _, hkind⟩)
      (exists_adds_declareType htarget p _)
  | takenTypedef htypedef =>
    have htarget := htypedef.declaredType?_eq
    exact exists_settles_of_types htarget (.inr ⟨_, _, htypedef.kind⟩)
      (exists_adds_emitType htarget p)
  | typedef htypedef =>
    have htarget := htypedef.declaredType?_eq
    exact exists_settles_of_types htarget (.inr ⟨_, _, htypedef.kind⟩)
      (exists_adds_declareType htarget p _)
  | @enum name items values hkind hvalues =>
    obtain ⟨types, htypes, hadds⟩ := exists_adds_declareEnum (s := s) hkind p
    have hconsts := adds_bindEnumerators (s := s.declareEnum p d name) hemits hholds name
      (items.zip values)
    rw [enumeratorName_declareEnum] at hconsts
    refine ⟨_, hadds.trans hconsts, ?_⟩
    unfold Settles
    rw [hkind]
    exact .inr ⟨types, values, htypes, hvalues, Enumeration.length_valuesFrom hvalues, rfl⟩

/-! ### Declarations of other headers

A declaration that does not stand in the header of the walk has its type registered, so that the
header may refer to it. It is bound and reported by the walk through its own header, if there is
one.
-/

theorem emitType_of_not_holds (h : ¬ p.holds d) (target : String) :
    s.emitType p d target = s := by
  rcases emitType_cases s p d target with heq | ⟨_, -, -, hholds, -⟩
  · exact heq
  · exact absurd hholds h

theorem declareType_of_not_holds (h : ¬ p.holds d) (target : String) (type : DeclaredType) :
    s.declareType p d target type = { s with types := s.types.register target type } :=
  emitType_of_not_holds h target

/-- **A visit of a declaration of another header registers its type at most.** -/
theorem Outcome.types_only (h : Outcome s p d t) (hholds : ¬ p.holds d) :
    ∃ types, t = { s with types } := by
  cases h with
  | passed => exact ⟨s.types, rfl⟩
  | failed => exact ⟨s.types, skip_of_not_holds hholds⟩
  | function _ hholds' => exact absurd hholds' hholds
  | takenRecord | takenTypedef => exact ⟨s.types, emitType_of_not_holds hholds _⟩
  | record | typedef => exact ⟨_, declareType_of_not_holds hholds _ _⟩
  | @enum name items values =>
    have hsilent : ¬ (p.emits && p.holds d) := fun h => hholds (Bool.and_eq_true_iff.1 h).2
    unfold bindEnumerators
    rw [if_neg hsilent]
    rcases declareEnum_cases s p d name with heq | ⟨target, heq⟩
    · exact ⟨s.types, heq⟩
    · rw [heq, declareType_of_not_holds hholds]
      exact ⟨_, rfl⟩

/-- **Nothing comes of a declaration of another header**, even if its type is registered. -/
theorem Outcome.adds_of_not_holds (h : Outcome s p d t) (hholds : ¬ p.holds d) :
    s.Adds t p.file {} := by
  obtain ⟨types, heq⟩ := h.types_only hholds
  rw [heq]
  exact ⟨rfl, (List.append_nil _).symm, rfl⟩

/-! ### Types are bound exactly once

A type that is declared again, in the same header or in another one, is found among the registered
types and among those that count as bound. So what has to be shown is that the two agree with the
bindings of the package.
-/

theorem mem_emitted_emitType {target : String} (hemits : p.emits) (hholds : p.holds d)
    (hmem : target ∈ s.types) : target ∈ (s.emitType p d target).emitted := by
  obtain ⟨declared, hget⟩ := OrderedMap.exists_get?_of_mem hmem
  unfold emitType
  rw [hemits, hholds, hget]
  by_cases hbound : target ∈ s.emitted <;> simp [hbound]

/-- A type of the header is registered and counts as bound. -/
def HasDeclared (s : Session) (target : String) : Prop := target ∈ s.types ∧ target ∈ s.emitted

theorem declares_emitType {target : String} (hemits : p.emits) (hholds : p.holds d)
    (hmem : target ∈ s.types) : (s.emitType p d target).HasDeclared target := by
  refine ⟨?_, mem_emitted_emitType hemits hholds hmem⟩
  rw [types_emitType]
  exact hmem

theorem declares_declareType (hemits : p.emits) (hholds : p.holds d) (target : String)
    (type : DeclaredType) : (s.declareType p d target type).HasDeclared target :=
  declares_emitType hemits hholds (Registry.mem_register.2 (.inl rfl))

/-- **A visit that reports nothing declares the type of its declaration.** -/
theorem Outcome.declares (h : Outcome s p d t) (hemits : p.emits) (hholds : p.holds d)
    {target : String} (htarget : s.declaredType? d = some target)
    (hskipped : t.skipped = s.skipped) : t.HasDeclared target := by
  cases h with
  | passed hpasses => cases hpasses.declaredType?_eq_none.symm.trans htarget
  | failed =>
    rw [skip_eq, if_pos hholds] at hskipped
    simp at hskipped
  | function hkind =>
    unfold declaredType? at htarget
    rw [hkind] at htarget
    cases htarget
  | takenRecord hkind hname hmem =>
    cases (declaredType?_record hkind hname).symm.trans htarget
    exact declares_emitType hemits hholds hmem
  | record hkind hname =>
    cases (declaredType?_record hkind hname).symm.trans htarget
    exact declares_declareType hemits hholds _ _
  | takenTypedef htypedef hmem =>
    cases htypedef.declaredType?_eq.symm.trans htarget
    exact declares_emitType hemits hholds hmem
  | typedef htypedef =>
    cases htypedef.declaredType?_eq.symm.trans htarget
    exact declares_declareType hemits hholds _ _
  | @enum name items values hkind =>
    have hdeclared : (s.declareEnum p d name).HasDeclared target := by
      rw [declaredType?_enum hkind] at htarget
      obtain ⟨own, hown, rfl⟩ := Option.map_eq_some_iff.1 htarget
      unfold declareEnum
      rw [hown]
      exact declares_declareType hemits hholds _ _
    rw [HasDeclared, types_bindEnumerators, emitted_bindEnumerators]
    exact hdeclared

/-- What counts as bound are the names of the bound types, which are all different. -/
structure TalliesTypes (s : Session) : Prop extends s.BindsTypesOnce where
  bound : s.emitted ⊆ s.package.types.map TypeBinding.name

/-- At the start no type counts as bound and none is. -/
theorem TalliesTypes.start (options : SessionOptions) : (start options).TalliesTypes where
  nodup := List.nodup_nil
  emitted _ hb := nomatch hb
  bound _ hmem := nomatch hmem

theorem TalliesTypes.visit (h : s.TalliesTypes) (p : Place) (d : Decl) :
    (s.visit p d).TalliesTypes := by
  have hmore := (outcome_visit s p d).bindsOneMore
  refine ⟨h.toBindsTypesOnce.of_bindsOneMore hmore, ?_⟩
  intro target htarget
  cases hmore with
  | same hperm hemitted =>
    rw [hemitted] at htarget
    exact (hperm.map _).mem_iff.2 (h.bound htarget)
  | new _ hperm hemitted =>
    rw [hemitted] at htarget
    apply (hperm.map _).mem_iff.2
    rcases List.mem_cons.1 htarget with rfl | htarget
    · exact List.mem_cons_self
    · exact List.mem_cons_of_mem _ (h.bound htarget)

theorem TalliesTypes.hasTypeOnce (h : s.TalliesTypes) {target : String}
    (htarget : s.HasDeclared target) : s.HasTypeOnce target :=
  ⟨htarget.1, List.count_eq_one_of_mem h.nodup (h.bound htarget.2)⟩

/-! ### Whole walks

The yields of the steps are collected in order, and sessions in a row add what each step adds.
-/

/-- **Every visit accounts for its declaration.** -/
theorem TalliesTypes.exists_yields {v : Step} (h : v.session.TalliesTypes)
    (hemits : v.place.emits) : ∃ y, v.Yields y := by
  have houtcome : Outcome v.session v.place v.decl v.after := outcome_visit _ _ _
  have hafter : v.after.TalliesTypes := h.visit v.place v.decl
  by_cases hholds : v.place.holds v.decl
  · obtain ⟨y, hadds, hsettles⟩ := houtcome.settles hemits hholds
    refine ⟨y, hadds, fun _ => hsettles, fun hnot => absurd hholds hnot, ?_⟩
    intro _ target htarget hreports
    have hskipped : v.after.skipped = v.session.skipped := by
      rw [hadds.skipped, hreports, List.append_nil]
    exact hafter.hasTypeOnce (houtcome.declares hemits hholds htarget hskipped)
  · exact ⟨{}, houtcome.adds_of_not_holds hholds, fun hyes => absurd hyes hholds, fun _ => rfl,
      fun hyes => absurd hyes hholds⟩

/-- **What visits add is what each of them gives**, by induction on the visits. -/
theorem TalliesTypes.exists_yields_visitAll (h : s.TalliesTypes)
    (hemits : ¬ Catalog.isKnownHeader file) {visits : List (Place × Decl)}
    (hfile : ∀ v ∈ visits, v.1.file = file) :
    ∃ yields : List Yield,
      List.Forall₂ (fun v y => v.place.file = file ∧ v.Yields y) (s.steps visits) yields ∧
      s.Adds (s.visitAll visits) file (Yield.all yields) := by
  induction visits generalizing s with
  | nil => exact ⟨[], .nil, .refl s file⟩
  | cons v rest ih =>
    have hv : v.1.file = file := hfile v List.mem_cons_self
    have hplace : v.1.emits := by
      unfold Place.emits
      rw [hv]
      simpa using hemits
    obtain ⟨y, hy⟩ := TalliesTypes.exists_yields (v := ⟨s, v.1, v.2⟩) h hplace
    obtain ⟨yields, hyields, hrest⟩ := ih (h.visit v.1 v.2) fun w hw =>
      hfile w (List.mem_cons_of_mem v hw)
    have hadds : s.Adds (s.visit v.1 v.2) file y := hv ▸ hy.adds
    exact ⟨y :: yields, .cons ⟨hv, hy⟩ hyields, hadds.trans hrest⟩

/-- The struct `red` again, a function with an unknown parameter type, and an enumeration. -/
def redShades : HeaderUnit where
  path := "red.h"
  decls := [redStruct,
    redDecl
      (.function
        { name := "mix", displayName := "mix(blue)", mangledName := "mix", kind := .free
          type := { params := [⟨none, .named { name := "blue" }⟩], result := .builtin .void } }) [],
    redDecl (.enum (some "shade") [⟨"Dark", none⟩, ⟨"Light", none⟩]) []]

/-- The session after the header with the overloads. -/
def afterOverloads : Session := (start {}).visitAll ([redOverloads].flatMap HeaderUnit.visits)

end Session

end HeaderBindings
