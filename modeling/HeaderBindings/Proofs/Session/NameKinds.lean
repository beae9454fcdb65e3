import HeaderBindings.Proofs.Naming.ReadBack
import HeaderBindings.Proofs.Session.BindingNames
import HeaderBindings.Proofs.Session.Numbering

/-!
# Names that bindings of different kinds may share

Types are told apart by the registry, functions by the counter of names, and enumerators by nothing
at all; names of different kinds are never compared. What keeps some of them apart all the same is
an underscore:

| name | underscore |
|---|---|
| of a type | never: it is in camel case |
| of a function that gets the name it asks for | never, for the same reason |
| of a function that gets a numbered name | always: the number stands behind two of them |
| of an enumerator of an enumeration with a name | always: it stands behind that name |
| of an enumerator of an enumeration without one | as it is declared |

So names of two kinds may meet only if the table does not tell them apart (`NameKind.meets`), and
names of any two kinds that may meet do so in one header (`binding_names_redUnit`). Among names of
one kind, those of types never meet, those of functions only if they are not read as they are
written, and those of enumerators only if they belong to two enumerations, or twice to one.

## From bindings back to declarations

The kind of a binding's name is not part of the binding. `Session.BoundAs` says for which visited
declaration a binding is made, and under a name of which kind. Each visit adds only bindings that
are made for its own declaration (`Outcome.boundFor`), so each binding of a run is made for one of
the visited declarations (`exists_boundAs_visitAll`). Reading the name of a function drops and adds
no underscore (`FunctionName.underscore_mem_render_ofString`), so the table holds for the names
under which functions are bound, however they are read (`BoundAs.fits`). Together with the
invariants for types and for functions this gives all that can be said about the names of two
bindings (`binding_names_distinct`).
-/

namespace HeaderBindings

namespace FunctionName

/-- **Reading a name keeps its underscores.** What is lost are stars, and what is added are the
characters around a receiver. -/
theorem underscore_mem_render_ofString (full : String) :
    '_' ∈ (ofString full).render.toList ↔ '_' ∈ full.toList := by
  have hstars : ∀ cs : List Char, '_' ∈ cs.dropWhile (· = '*') ↔ '_' ∈ cs := by
    intro cs
    have hdropped : '_' ∉ cs.takeWhile (· = '*') := by
      intro h
      have hstar := List.mem_takeWhile_imp h
      simp at hstar
    have hcut : '_' ∈ cs ↔ '_' ∈ cs.takeWhile (· = '*') ++ cs.dropWhile (· = '*') := by
      rw [List.takeWhile_append_dropWhile]
    rw [hcut, List.mem_append, or_iff_right hdropped]
  unfold ofString
  split
  · next rest hfull =>
    split
    · next receiver name hcut =>
      rw [toList_render, hfull, Text.eq_append_of_cutAt? hcut]
      simp [hstars]
    · exact Iff.rfl
  · exact Iff.rfl

end FunctionName

namespace Session

/-! ### Kinds of names -/

/-- The kinds of names under which something is bound. -/
inductive NameKind where
  /-- The name of a type. -/
  | type
  /-- The name of a function: the one for which it asks, or that with a number. -/
  | function (isNumbered : Bool)
  /-- The name of an enumerator, behind that of its enumeration if this has one. -/
  | enumerator (enum : Option String) (name : String)
  deriving DecidableEq

/-- Whether two different bindings with names of these kinds may share their name. Two functions
may, if their names are read alike, and so may enumerators of two enumerations. -/
def NameKind.meets : NameKind → NameKind → Bool
  | type, type => false
  | type, function isNumbered | function isNumbered, type => !isNumbered
  | type, enumerator enum _ | enumerator enum _, type => !enum.isSome
  | function isNumbered, enumerator enum _ | enumerator enum _, function isNumbered =>
    isNumbered || !enum.isSome
  | function isNumbered, function isNumbered' => isNumbered == isNumbered'
  | enumerator enum name, enumerator enum' name' => enum != enum' || name == name'

variable {s t : Session} {p : Place} {d : Decl} {v : Place × Decl} {b : Binding} {kind : NameKind}

/-- A binding is made for a visited declaration, under a name of some kind. -/
inductive BoundAs (s : Session) (v : Place × Decl) : Binding → NameKind → Prop where
  | type {b : TypeBinding} : s.declaredType? v.2 = some b.name → BoundAs s v (.type b) .type
  | function {b : FunctionBinding} {f : FunctionDecl} {n : Nat} : v.2.kind = .function f →
    b.name = FunctionName.ofString (NameCounter.form (s.candidateName v.1 f) n) →
    BoundAs s v (.function b) (.function (n ≠ 0))
  | enumerator {c : ConstBinding} {enum : Option String} {items : List Enumerator}
    {item : Enumerator} : v.2.kind = .enum enum items → item ∈ items →
    c.name = s.enumeratorName enum item.name →
    BoundAs s v (.const c) (.enumerator (enum.filter (· ≠ "")) item.name)

/-- Names depend on the prefix rules alone. -/
theorem BoundAs.congr (h : s.BoundAs v b kind) (hrules : t.rules = s.rules) :
    t.BoundAs v b kind := by
  cases h with
  | type htype => exact .type ((declaredType?_congr hrules v.2).trans htype)
  | function hkind hname =>
    refine .function hkind ?_
    unfold candidateName at hname ⊢
    rw [hrules]
    exact hname
  | enumerator hkind hitem hname =>
    refine .enumerator hkind hitem ?_
    unfold enumeratorName at hname ⊢
    rw [hrules]
    exact hname

/-! ### Every binding is made for a declaration -/

/-- A binding of a session is one of another session, or it is made for a declaration. -/
def BoundFor (s t : Session) (v : Place × Decl) : Prop :=
  ∀ b ∈ t.package.bindings, b ∈ s.package.bindings ∨ ∃ kind, s.BoundAs v b kind

theorem boundFor_emitType {target : String} (htarget : s.declaredType? d = some target)
    (p : Place) : s.BoundFor (s.emitType p d target) (p, d) := by
  intro b hb
  rcases emitType_cases s p d target with heq | ⟨declared, -, -, -, -, heq⟩
  · rw [heq] at hb
    exact .inl hb
  · rw [heq] at hb
    rcases Package.mem_bindings_push.1 hb with rfl | hb
    · exact .inr ⟨_, .type htarget⟩
    · exact .inl hb

theorem boundFor_declareType {target : String} (htarget : s.declaredType? d = some target)
    (p : Place) (type : DeclaredType) : s.BoundFor (s.declareType p d target type) (p, d) := by
  intro b hb
  have hemit := boundFor_emitType (s := { s with types := s.types.register target type }) htarget p
  exact (hemit b hb).imp_right fun ⟨kind, h⟩ => ⟨kind, h.congr rfl⟩

theorem boundFor_declareEnum {name : Option String} {items : List Enumerator}
    (hkind : d.kind = .enum name items) (p : Place) :
    s.BoundFor (s.declareEnum p d name) (p, d) := by
  have htarget := declaredType?_enum (s := s) hkind
  unfold declareEnum
  split
  · next hname =>
    rw [hname] at htarget
    exact boundFor_declareType htarget p _
  · exact fun b hb => .inl hb

theorem boundFor_bindEnumerators {name : Option String} {items : List Enumerator}
    (hkind : d.kind = .enum name items) (p : Place) (values : List Int64) :
    s.BoundFor (s.bindEnumerators p d name (items.zip values)) (p, d) := by
  intro b hb
  rw [package_bindEnumerators] at hb
  rcases Package.mem_bindings_foldl_push.1 hb with hb | hb
  · split at hb
    · obtain ⟨e, he, rfl⟩ := List.mem_map.1 hb
      exact .inr ⟨_, .enumerator hkind (List.of_mem_zip he).1 rfl⟩
    · cases hb
  · exact .inl hb

theorem boundFor_bindFunction (hfree : ∀ symbol, s.overrides.get? symbol = none)
    {f : FunctionDecl} (hkind : d.kind = .function f) (p : Place)
    (signature : Signature TargetType) :
    s.BoundFor (s.bindFunction p d f signature) (p, d) := by
  obtain ⟨n, hname⟩ := nameFunction_of_not_overridden
    (hfree (SymbolIndex.undecorate s.decoration f.mangledName)) p f
  intro b hb
  unfold bindFunction at hb
  dsimp only at hb
  split at hb
  · rcases Package.mem_bindings_push.1 hb with rfl | hb
    · exact .inr ⟨_, .function hkind (congrArg FunctionName.ofString hname)⟩
    · exact .inl hb
  · exact .inl hb

/-- **A visit makes bindings for its declaration and for no other.** -/
theorem Outcome.boundFor (h : Outcome s p d t) (hfree : ∀ symbol, s.overrides.get? symbol = none) :
    s.BoundFor t (p, d) := by
  cases h with
  | passed => exact fun b hb => .inl hb
  | failed =>
    rw [skip_eq]
    exact fun b hb => .inl hb
  | function hkind => exact boundFor_bindFunction hfree hkind p _
  | takenRecord hkind hname => exact boundFor_emitType (declaredType?_record hkind hname) p
  | record hkind hname => exact boundFor_declareType (declaredType?_record hkind hname) p _
  | takenTypedef htypedef => exact boundFor_emitType htypedef.declaredType?_eq p
  | typedef htypedef => exact boundFor_declareType htypedef.declaredType?_eq p _
  | @enum name items values hkind =>
    have hrules : (s.declareEnum p d name).rules = s.rules := by
      obtain ⟨types, emitted, package, heq⟩ := declareEnum_eq s p d name
      rw [heq]
    intro b hb
    rcases boundFor_bindEnumerators hkind p values b hb with hb | ⟨kind, h⟩
    · exact boundFor_declareEnum hkind p b hb
    · exact .inr ⟨kind, h.congr hrules.symm⟩

/-- **Every binding of a run is made for a visited declaration**, by induction on the visits. -/
theorem exists_boundAs_visitAll (hfree : ∀ symbol, s.overrides.get? symbol = none)
    {visits : List (Place × Decl)} (hb : b ∈ (s.visitAll visits).package.bindings) :
    b ∈ s.package.bindings ∨ ∃ v ∈ visits, ∃ kind, s.BoundAs v b kind := by
  induction visits generalizing s with
  | nil => exact .inl hb
  | cons v rest ih =>
    rw [visitAll_cons] at hb
    have hfree' : ∀ symbol, (s.visit v.1 v.2).overrides.get? symbol = none := by
      rw [overrides_visit]
      exact hfree
    rcases ih hfree' hb with hb | ⟨w, hw, kind, h⟩
    · rcases (outcome_visit s v.1 v.2).boundFor hfree b hb with hb | ⟨kind, h⟩
      · exact .inl hb
      · exact .inr ⟨v, List.mem_cons_self, kind, h⟩
    · exact .inr ⟨w, List.mem_cons_of_mem v hw, kind, h.congr (rules_visit s v.1 v.2).symm⟩

/-! ### Underscores -/

theorem underscore_not_mem_declaredType {target : String} (h : s.declaredType? d = some target) :
    '_' ∉ target.toList := by
  have hcamel : ∃ name, target = s.rules.typeName name := by
    unfold declaredType? at h
    split at h
    · split at h
      · cases h
      · cases h
        exact ⟨_, rfl⟩
    · obtain ⟨name, -, rfl⟩ := Option.map_eq_some_iff.1 h
      exact ⟨name, rfl⟩
    · dsimp only at h
      split at h
      · cases h
      · cases h
        exact ⟨_, rfl⟩
    all_goals cases h
  obtain ⟨name, rfl⟩ := hcamel
  exact Text.underscore_not_mem_camelCase _

theorem underscore_mem_form_iff {name : String} (h : '_' ∉ name.toList) (n : Nat) :
    '_' ∈ (NameCounter.form name n).toList ↔ n ≠ 0 := by
  cases n with
  | zero => simpa [NameCounter.form] using h
  | succ n => simp [NameCounter.form]

theorem underscore_mem_enumeratorName {enum : Option String} (h : (enum.filter (· ≠ "")).isSome)
    (s : Session) (name : String) : '_' ∈ (s.enumeratorName enum name).toList := by
  unfold enumeratorName
  split
  · simp
  · next hnone =>
    rw [hnone] at h
    cases h

/-- Within an enumeration, enumerators keep their names apart. -/
theorem eq_of_enumeratorName_eq {enum enum' : Option String} {name name' : String}
    (henum : enum.filter (· ≠ "") = enum'.filter (· ≠ ""))
    (h : s.enumeratorName enum name = s.enumeratorName enum' name') : name = name' := by
  unfold enumeratorName at h
  rw [← henum] at h
  cases hname : enum.filter (· ≠ "") with
  | some _ =>
    rw [hname] at h
    exact (String.append_right_inj _).1 h
  | none =>
    rw [hname] at h
    exact h

/-- What the kind of a name says about underscores in it. -/
def NameKind.Fits (name : String) : NameKind → Prop
  | type => '_' ∉ name.toList
  | function isNumbered => '_' ∈ name.toList ↔ isNumbered
  | enumerator enum _ => enum.isSome → '_' ∈ name.toList

/-- **Names are of the kinds under which they are bound.** -/
theorem BoundAs.fits (h : s.BoundAs v b kind) : kind.Fits b.name := by
  cases h with
  | type htype => exact underscore_not_mem_declaredType htype
  | @function b f n _ hname =>
    show '_' ∈ b.name.render.toList ↔ decide (n ≠ 0) = true
    rw [hname, FunctionName.underscore_mem_render_ofString, decide_eq_true_iff]
    exact underscore_mem_form_iff (underscore_not_mem_candidateName s v.1 f) n
  | @enumerator c enum items item _ _ hname =>
    intro hprefixed
    show '_' ∈ c.name.toList
    rw [hname]
    exact underscore_mem_enumeratorName hprefixed s item.name

/-- Names of two kinds meet unless an underscore tells them apart, or both are names of types, or of
enumerators. -/
theorem NameKind.meets_of_fits {name : String} {other : NameKind} (h : kind.Fits name)
    (hother : other.Fits name) (htypes : ¬ (kind = .type ∧ other = .type))
    (henumerators : ∀ enum a b, kind = .enumerator enum a → other = .enumerator enum b → a = b) :
    kind.meets other := by
  cases kind <;> cases other <;> grind [Fits, meets]

/-- **Bindings that share a name have it of kinds that meet**, or are both types. -/
theorem BoundAs.meets {w : Place × Decl} {c : Binding} {other : NameKind} (hb : s.BoundAs v b kind)
    (hc : s.BoundAs w c other) (hname : b.name = c.name)
    (htypes : ¬ (kind = .type ∧ other = .type)) : kind.meets other := by
  refine NameKind.meets_of_fits hb.fits (hname ▸ hc.fits) htypes ?_
  rintro enum x y rfl rfl
  generalize hkind : NameKind.enumerator enum x = kind at hb
  generalize hother : NameKind.enumerator enum y = other at hc
  cases hb with
  | type | function => cases hkind
  | enumerator _ _ hx =>
    cases hc with
    | type | function => cases hother
    | enumerator _ _ hy =>
      obtain ⟨henum, rfl⟩ := NameKind.enumerator.inj hkind
      obtain ⟨henum', rfl⟩ := NameKind.enumerator.inj hother
      apply eq_of_enumeratorName_eq (henum.symm.trans henum')
      rw [← hx, ← hy]
      exact hname

/-! ### Names that start with a parenthesis -/

/-- The names under which a declaration that is no function may be bound. -/
def ownNames (s : Session) (d : Decl) : List String :=
  (s.declaredType? d).toList ++
    match d.kind with
    | .enum name items => items.map fun item => s.enumeratorName name item.name
    | _ => []

theorem BoundAs.mem_ownNames (h : s.BoundAs v b kind) (hother : b.function? = none) :
    b.name ∈ s.ownNames v.2 := by
  cases h with
  | type htype => exact List.mem_append_left _ (Option.mem_toList.2 htype)
  | function => cases hother
  | @enumerator c enum items item hkind hitem hname =>
    refine List.mem_append_right _ ?_
    rw [hkind]
    exact List.mem_map.2 ⟨item, hitem, hname.symm⟩

theorem head?_render {name : FunctionName} (h : name.receiver.isSome) :
    name.render.toList.head? = some '(' := by
  obtain ⟨_ | receiver, method⟩ := name
  · cases h
  · rw [FunctionName.toList_render]
    rfl

/-! ### Whole runs -/

/-- **Two bindings share a name only if the kinds of their names meet.**

In a run without overrides, every binding is made for a visited declaration. Two different bindings
have different names unless the kinds of these meet: two types never share a name; a type shares one
at most with functions that have no number and with enumerators of enumerations without a name; a
function shares one with an enumerator behind the name of its enumeration only if the function has a
number, and with another function only if both have a number or neither has one; and enumerators
share one only if they have the same name themselves, or their enumerations have different names.

If no two exported functions have the same symbol, and the names of functions and of the records
around them are read as they are written, then two functions do not share a name either. A method
shares its name with nothing but functions, if no type and no enumerator is given a name that starts
with a parenthesis. -/
theorem binding_names_distinct (options : SessionOptions) (hoverrides : options.overrides = ∅)
    (units : List HeaderUnit) :
    (∀ b ∈ ((start options).processAll units).package.bindings,
      ∃ v ∈ units.flatMap HeaderUnit.visits, ∃ kind, (start options).BoundAs v b kind) ∧
    ((start options).processAll units).package.bindings.Pairwise (fun b c => b.name = c.name →
      ∀ v w kind other, (start options).BoundAs v b kind → (start options).BoundAs w c other →
        kind.meets other) ∧
    (((units.flatMap HeaderUnit.visits).filterMap (exportedSymbol? options.decoration)).Nodup →
      (∀ v ∈ units.flatMap HeaderUnit.visits, ∀ f, v.2.kind = .function f →
        (start options).WritesPlainly v.1 f) →
      (((start options).processAll units).package.functions.map fun b => b.name.render).Nodup) ∧
    ((∀ v ∈ units.flatMap HeaderUnit.visits, ∀ name ∈ (start options).ownNames v.2,
        name.toList.head? ≠ some '(') →
      ∀ b ∈ ((start options).processAll units).package.functions, b.name.receiver.isSome →
        ∀ c ∈ ((start options).processAll units).package.bindings, c.function? = none →
          c.name ≠ b.name.render) := by
  have hfree : ∀ symbol, (start options).overrides.get? symbol = none :=
    not_overridden_visitAll hoverrides []
  have hall : ∀ b ∈ ((start options).processAll units).package.bindings,
      ∃ v ∈ units.flatMap HeaderUnit.visits, ∃ kind, (start options).BoundAs v b kind := by
    intro b hb
    rw [processAll_eq_visitAll] at hb
    exact (exists_boundAs_visitAll hfree hb).resolve_left fun hstart => nomatch hstart
  refine ⟨hall, ?_,
    fun hsymbols hplain => nodup_functions_processAll hoverrides hsymbols hplain, ?_⟩
  · have htypes := (bindsTypesOnce_processAll options units).nodup
    rw [List.Nodup, List.pairwise_map] at htypes
    refine (List.pairwise_filterMap.1 htypes).imp ?_
    intro b c htypes hname v w kind other hb hc
    apply hb.meets hc hname
    rintro ⟨rfl, rfl⟩
    cases hb
    cases hc
    exact htypes _ rfl _ rfl hname
  · intro hheads b _ hmethod c hc hother heq
    obtain ⟨v, hv, kind, hbound⟩ := hall c hc
    have hhead := hheads v hv c.name (hbound.mem_ownNames hother)
    rw [heq] at hhead
    exact hhead (head?_render hmethod)

/-- A declaration of the header `red.h`. -/
def redDecl (kind : DeclKind) (children : List Decl) : Decl where
  kind := kind
  children := children
  location := { file := some "red.h" }

/-- A struct `red` of the header `red.h`. -/
def redStruct : Decl := redDecl (.record "red" .struct [⟨some "x", .builtin .int⟩]) []

def redFunction (name symbol : String) : Decl :=
  redDecl
    (.function
      { name, displayName := name ++ "()", mangledName := symbol, kind := .free
        type := { params := [], result := .builtin .void } }) []

/-- A header with a struct and two functions of the same name. -/
def redOverloads : HeaderUnit :=
  ⟨"red.h", [redStruct, redFunction "red" "red", redFunction "red" "red_int"]⟩

theorem binding_names_distinct_redOverloads :
    ([redOverloads].flatMap HeaderUnit.visits).filterMap (exportedSymbol? (some '_')) =
      ["red", "red_int"] ∧
    ((start {}).processAll [redOverloads]).package.bindings.map Binding.name =
      ["Red", "Red", "Red__1"] ∧
    (((start {}).processAll [redOverloads]).package.functions.map
      fun b => b.name.render).Nodup := by
  have hsymbols : ([redOverloads].flatMap HeaderUnit.visits).filterMap
      (exportedSymbol? (some '_')) = ["red", "red_int"] := by decide +kernel
  have hplain : ∀ v ∈ [redOverloads].flatMap HeaderUnit.visits, ∀ f, v.2.kind = .function f →
      (start {}).WritesPlainly v.1 f := by
    have hvisits : [redOverloads].flatMap HeaderUnit.visits =
        [(⟨"red.h", []⟩, redStruct), (⟨"red.h", []⟩, redFunction "red" "red"),
          (⟨"red.h", []⟩, redFunction "red" "red_int")] := rfl
    intro v hv f hf
    rw [hvisits] at hv
    simp only [List.mem_cons, List.not_mem_nil, or_false] at hv
    rcases hv with rfl | rfl | rfl
    · cases hf
    · cases hf
      show ((start {}).candidateName _ _).toList.head? ≠ some '('
      decide +kernel
    · cases hf
      show ((start {}).candidateName _ _).toList.head? ≠ some '('
      decide +kernel
  have hfunctions := (binding_names_distinct {} rfl [redOverloads]).2.2.1
    (by rw [hsymbols]; decide) hplain
  exact ⟨hsymbols, by decide +kernel, hfunctions⟩

/-- Enumerators without an enumeration's name, one like the struct and one like the second function;
one behind the name of an enumeration that is like it, too; and two behind the names of different
enumerations. -/
def redEnums : List Decl :=
  [redDecl (.enum none [⟨"Red", none⟩, ⟨"Red__1", none⟩]) [],
    redDecl (.enum (some "red_a") [⟨"x", none⟩]) [],
    redDecl (.scope (some "n"))
      [redDecl (.enum (some "red") [⟨"_1", none⟩, ⟨"a_x", none⟩]) []],
    redDecl (.scope (some "m"))
      [redDecl (.enum none [⟨"Red", none⟩]) [], redDecl (.enum (some "red") [⟨"_1", none⟩]) []]]

/-- Two overloads for each of two prefixes. -/
def prefixedOverloads : List Decl :=
  [redFunction "a_f" "a_f", redFunction "a_f" "a_f_int", redFunction "b_f" "b_f",
    redFunction "b_f" "b_f_int"]

/-- The overloads together with enumerators in different scopes, and functions with prefixes. -/
def redUnit : HeaderUnit :=
  ⟨"red.h", redOverloads.decls ++ redEnums ++ prefixedOverloads⟩

/-- Rules that write receivers into the names of functions. -/
def receiverOptions : SessionOptions where
  trimPrefixes := ["a_", "b_"]
  replPrefixes := ["(X).", "(*X)."]

/-- All kinds of names that may meet do so in one header: a type, a function and two enumerators
share a name, and so do a numbered function and enumerators with and without the name of their
enumeration, and two enumerators behind the names of different enumerations. Functions whose target
names are different are read as the same method, with numbers and without. -/
theorem binding_names_redUnit :
    ([redUnit].flatMap HeaderUnit.visits).filterMap (exportedSymbol? receiverOptions.decoration) =
      ["red", "red_int", "a_f", "a_f_int", "b_f", "b_f_int"] ∧
    ((start receiverOptions).processAll [redUnit]).package.types.map TypeBinding.name =
      ["Red", "RedA"] ∧
    ((start receiverOptions).processAll [redUnit]).package.functions.map (fun b => b.name.render) =
      ["Red", "Red__1", "(*X).f", "(*X).f__1", "(*X).f", "(*X).f__1"] ∧
    (((start receiverOptions).processAll [redUnit]).package.bindings.filterMap
      Binding.const?).map ConstBinding.name =
        ["Red", "Red__1", "Red_a_x", "Red__1", "Red_a_x", "Red", "Red__1"] :=
  ⟨by decide +kernel, by decide +kernel, by decide +kernel, by decide +kernel⟩

end Session

end HeaderBindings
