import HeaderBindings.Proofs.Conversion.Indirection
import HeaderBindings.Proofs.Conversion.Parts
import HeaderBindings.Proofs.Session.Extension

/-!
# Typedefs of `void`

`void` is told by what a type is converted to: as the result of a function it leaves the results
empty, and a pointer to it is opaque. A typedef is converted to its own name, and what the name
stands for is kept in the registry, where neither of the two rules looks. So they apply to `void`
itself and to no other type, whatever is registered (`Converter.treatsAsVoid_iff`), and a typedef of
`void` becomes the result of a function and the pointee of a pointer (`void_typedefs_iff`).

## The two halves

The first half is about the converter, with any registry. Nothing but `void` is converted to `void`
(`Converter.type_eq_void_iff`): the other built-in types are scalars, pointers are pointers or
opaque, and a reference is converted to a name or to what the catalog gives for it. From that both
rules are settled.

The second half is about a header that declares typedefs one behind the other, the first of them of
`void` (`TypedefChain`). It shows that such typedefs really arrive at the converter as names that
stand for `void`: each of them is registered without a report, as the name of the one before it, and
so its meaning is found by following the registered names (`Registry.StandsFor`). The names have to
be different after trimming and may not be known to the catalog, since then they would not be
registered.
-/

namespace HeaderBindings

/-! ### What is converted to `void`

The cases are the forms of types. A pointer to `void` is the one place where `void` is asked for,
and what comes of it is not `void` again.
-/

/-- Of the builtin types only `void` is converted to `void`. -/
theorem Catalog.builtin?_eq_void_iff {b : Builtin} : builtin? b = some .void ↔ b = .void := by
  constructor
  · intro h
    have hall : ∀ e ∈ builtins, e.2 = .void → e.1 = .void := by simp [builtins, Builtin.void]
    obtain ⟨front, back, hmem, -⟩ := List.lookup_eq_some_iff.1 h
    exact hall (b, .void) (hmem ▸ by simp) rfl
  · rintro rfl
    rfl

namespace Converter

variable {c : Converter} {t : CType} {type : TargetType}

/-- A reference gives a scalar of the catalog or a name, and neither is `void`. -/
theorem void_ne_of_reference {ref : NamedRef} (h : c.reference ref = .ok type) : type ≠ .void := by
  rw [reference] at h
  split at h
  · cases h
  · split at h
    · cases h
      simp [Catalog.KnownTypedef.type]
    · dsimp only at h
      split at h
      · cases h
        simp
      · cases h

/-- A pointer is not `void`, whatever it points to. -/
theorem pointerTo_ne_void (pointee : TargetType) : pointerTo pointee ≠ .void := by
  unfold pointerTo
  split <;> simp

/-- Only a pointer to `void` is opaque. -/
theorem pointerTo_eq_opaquePointer_iff : pointerTo type = .opaquePointer ↔ type = .void := by
  unfold pointerTo
  split <;> simp_all

/-- **Nothing but `void` itself is converted to `void`.** -/
theorem type_eq_void_iff {asParam : Bool} : c.type asParam t = .ok .void ↔ t = .builtin .void := by
  constructor
  · intro h
    cases t with
    | builtin b =>
      rw [Converter.type, builtin] at h
      split at h
      · next found hfound =>
        cases h
        rw [Catalog.builtin?_eq_void_iff.1 hfound]
      · cases h
    | pointer pointee =>
      rw [Converter.type] at h
      obtain ⟨converted, -, h⟩ := Result.of_bind_eq_ok h
      exact absurd (Except.ok.inj h) (pointerTo_ne_void converted)
    | array elem length =>
      rw [Converter.type] at h
      obtain ⟨converted, -, h⟩ := Result.of_bind_eq_ok h
      split at h
      · cases h
      · split at h
        · cases h
        · obtain ⟨size, -, h⟩ := Result.of_bind_eq_ok h
          cases h
    | func f =>
      rw [type_func] at h
      cases hsignature : c.signature f with
      | error cause =>
        rw [hsignature] at h
        cases h
      | ok signature =>
        rw [hsignature] at h
        cases h
    | named ref =>
      rw [Converter.type] at h
      exact absurd rfl (void_ne_of_reference h)
    | variadic =>
      rw [Converter.type] at h
      cases h
  · rintro rfl
    rw [Converter.type]
    rfl

/-- A type is treated as `void` is: a function that returns it has no results, and a pointer to it
is opaque. -/
structure TreatsAsVoid (c : Converter) (t : CType) : Prop where
  results : ∀ params isVariadic signature,
    c.signature ⟨params, isVariadic, t⟩ = .ok signature → signature.results = []
  pointer : ∀ asParam, c.type asParam (.pointer t) = .ok .opaquePointer

/-- A function that returns anything but `void` has one result. -/
theorem results_signatureOf_of_ne (h : type ≠ .void) (params : List (Slot TargetType))
    (isVariadic : Bool) : (signatureOf params isVariadic type).results = [type] := by
  unfold signatureOf
  dsimp only
  split
  · exact absurd rfl h
  · rfl

/-- **`void` is the only type that is treated as `void`**, whatever is registered. -/
theorem treatsAsVoid_iff : c.TreatsAsVoid t ↔ t = .builtin .void := by
  constructor
  · intro h
    have hpointer := h.pointer false
    rw [type_pointer_eq_map] at hpointer
    cases htype : c.type false t with
    | error cause =>
      rw [htype] at hpointer
      cases hpointer
    | ok type =>
      rw [htype] at hpointer
      obtain rfl := pointerTo_eq_opaquePointer_iff.1 (Except.ok.inj hpointer)
      exact type_eq_void_iff.1 htype
  · rintro rfl
    constructor
    · intro params isVariadic signature hsignature
      obtain ⟨converted, isOpen, type, -, htype, rfl⟩ :=
        exists_parts_of_signature_eq_ok hsignature
      obtain rfl := Except.ok.inj (htype.symm.trans (type_eq_void_iff.2 rfl))
      rfl
    · intro asParam
      rw [type_pointer_eq_map, type_eq_void_iff.2 rfl]
      rfl

/-- What is converted to a name is the one result of a function that returns it. -/
theorem exists_signature_of_named {target : String} (h : c.type false t = .ok (.named target))
    {params : List (Slot CType)} {converted : List (Slot TargetType) × Bool}
    (hparams : c.params params = .ok converted) (isVariadic : Bool) :
    ∃ signature, c.signature ⟨params, isVariadic, t⟩ = .ok signature ∧
      signature.results = [.named target] := by
  have hne : TargetType.named target ≠ .void := by simp
  exact ⟨_, signature_eq_ok hparams h, results_signatureOf_of_ne hne _ _⟩

/-- What is converted to a name is the pointee of a pointer to it. -/
theorem type_pointer_of_named {target : String} (h : c.type false t = .ok (.named target))
    (asParam : Bool) : c.type asParam (.pointer t) = .ok (.pointer (.named target)) := by
  rw [type_pointer_eq_map, h]
  rfl

end Converter

/-! ### What a name stands for

The registry keeps for a typedef what its type was converted to, which is a name again if that type
is a typedef. Types that are registered later leave this as it is.
-/

/-- A type stands for another one if the names of typedefs are looked up in a registry. -/
inductive Registry.StandsFor (r : Registry) (meaning : TargetType) : TargetType → Prop where
  | self : StandsFor r meaning meaning
  | named {name underlying} : r.get? name = some ⟨.alias, underlying⟩ →
      StandsFor r meaning underlying → StandsFor r meaning (.named name)

/-- What a name stands for stays as it is when more types are registered. -/
theorem Registry.StandsFor.of_prefix {r r' : Registry} {meaning type : TargetType}
    (h : r.StandsFor meaning type) (hextends : r.entries <+: r'.entries) :
    r'.StandsFor meaning type := by
  induction h with
  | self => exact .self
  | named hget _ ih => exact .named (OrderedMap.get?_of_prefix hextends hget) ih

/-! ### Chains of typedefs

The declarations of a chain follow each other directly, so that the session before each of them is
known: it is the one before the chain, with the names of the typedefs in front registered.
-/

/-- Typedefs one behind the other: the first one of a given type, and each other one of the name
that the one before it declares. -/
inductive TypedefChain : CType → List String → List Decl → Prop where
  | nil {t} : TypedefChain t [] []
  | cons {t name ref names d rest} : d.kind = .typedef name t → ref.name = name →
      TypedefChain (.named ref) names rest → TypedefChain t (name :: names) (d :: rest)

namespace Session

variable {s : Session} {p : Place} {d : Decl} {t : CType} {type : TargetType}

/-- A typedef with a free name is registered as what it is converted to. -/
theorem visit_of_isTypedef {name : String} (h : s.IsTypedef d name t)
    (hfree : s.rules.typeName name ∉ s.types) (hok : s.converter.type false t = .ok type) :
    s.visit p d = s.declareType p d (s.rules.typeName name) ⟨.alias, type⟩ := by
  rw [visit, h.kind]
  dsimp only
  unfold visitTypedef
  dsimp only
  rw [if_neg, if_neg hfree, hok]
  · dsimp only
    split
    · rw [if_neg (ne_of_type_eq_named hfree hok)]
    · rfl
  · rw [Bool.or_eq_true, not_or]
    exact ⟨h.unknown, h.renames⟩

/-- What can be converted is the name of nothing that is still to be registered. -/
theorem not_renamesTag_of_ok {target : String} (hfree : target ∉ s.types)
    (hok : s.converter.type false t = .ok type)
    (hunknown : ∀ ref, t = .named ref → Catalog.typedef? (s.rules.trim ref.name) = none) :
    ¬ s.renamesTag target t := by
  intro h
  unfold renamesTag at h
  split at h
  · next ref =>
    obtain ⟨-, hname⟩ := Bool.and_eq_true_iff.1 h
    rw [Converter.type, Converter.reference] at hok
    split at hok
    · cases hok
    · have hnone : Catalog.typedef? (s.converter.rules.trim ref.name) = none := hunknown ref rfl
      rw [hnone] at hok
      dsimp only at hok
      split at hok
      · next hmem => exact hfree (of_decide_eq_true hname ▸ hmem)
      · cases hok
  · exact absurd h Bool.false_ne_true

/-- A reference to a registered name is converted to the name. -/
theorem type_of_mem_types (ref : NamedRef) (hname : ref.name ≠ "")
    (hunknown : Catalog.typedef? (s.rules.trim ref.name) = none)
    (hmem : s.rules.typeName ref.name ∈ s.types) (asParam : Bool) :
    s.converter.type asParam (.named ref) = .ok (.named (s.rules.typeName ref.name)) := by
  have hnone : Catalog.typedef? (s.converter.rules.trim ref.name) = none := hunknown
  have hregistered : s.converter.rules.typeName ref.name ∈ s.converter.types := hmem
  rw [Converter.type, Converter.reference, if_neg hname, hnone]
  dsimp only
  rw [if_pos hregistered]
  rfl

/-- The walk goes on behind a typedef. -/
theorem walk_cons_of_typedef {name : String} (hkind : d.kind = .typedef name t) (rest : List Decl) :
    walk p s (d :: rest) = walk p (s.visit p d) rest := by
  have hleaf : ¬ d.kind.isEntered := by
    rw [hkind]
    exact Bool.false_ne_true
  rw [walk, walkDecl_eq_visitAll, Place.visitsOf_of_not_isEntered p hleaf]
  rfl

/-- **A typedef with a free name is registered without a report**, and its name stands for what its
type stands for. -/
theorem standsFor_visit {meaning : TargetType} {name : String} (h : s.IsTypedef d name t)
    (hfree : s.rules.typeName name ∉ s.types) (hok : s.converter.type false t = .ok type)
    (hmeaning : s.types.StandsFor meaning type) :
    (s.visit p d).skipped = s.skipped ∧
      (s.visit p d).types.keys = s.types.keys ++ [s.rules.typeName name] ∧
      (s.visit p d).types.StandsFor meaning (.named (s.rules.typeName name)) := by
  obtain ⟨emitted, package, hdeclare⟩ :=
    declareType_eq s p d (s.rules.typeName name) ⟨.alias, type⟩
  rw [visit_of_isTypedef h hfree hok, hdeclare]
  refine ⟨rfl, ?_, ?_⟩
  · show (s.types.register _ _).keys = _
    rw [Registry.register_of_not_mem hfree, OrderedMap.keys_insert, if_neg hfree]
  · have hget := s.types.get?_register (s.rules.typeName name) (s.rules.typeName name)
      ⟨.alias, type⟩
    rw [if_pos ⟨rfl, hfree⟩] at hget
    exact .named hget (hmeaning.of_prefix (s.types.entries_prefix_register _ _))

/-- **A chain of typedefs registers all its names**, each of which stands for what the first typedef
is of. The induction is on the chain: once the first name is registered, the rest is a chain of the
type that the name is converted to. -/
theorem walk_of_typedefChain {meaning : TargetType} {names : List String} {decls : List Decl}
    (h : TypedefChain t names decls) (hnamed : ∀ name ∈ names, name ≠ "")
    (hunknown : ∀ name ∈ names, Catalog.typedef? (s.rules.trim name) = none)
    (hdistinct : (names.map s.rules.typeName).Nodup)
    (hfree : ∀ name ∈ names, s.rules.typeName name ∉ s.types)
    (hok : s.converter.type false t = .ok type) (hmeaning : s.types.StandsFor meaning type)
    (href : ∀ ref, t = .named ref → Catalog.typedef? (s.rules.trim ref.name) = none) :
    (walk p s decls).skipped = s.skipped ∧
      (walk p s decls).types.keys = s.types.keys ++ names.map s.rules.typeName ∧
      ∀ name ∈ names,
        (walk p s decls).types.StandsFor meaning (.named (s.rules.typeName name)) := by
  induction h generalizing s type with
  | nil => exact ⟨rfl, (List.append_nil _).symm, fun name hname => nomatch hname⟩
  | @cons t name ref names d rest hkind hname hchain ih =>
    subst hname
    have hfirst : ref.name ∈ ref.name :: names := List.mem_cons_self
    have hrest : ∀ other ∈ names, other ∈ ref.name :: names :=
      fun other hother => List.mem_cons_of_mem _ hother
    obtain ⟨hnew, hdistinct⟩ := List.nodup_cons.1 hdistinct
    have htypedef : s.IsTypedef d ref.name t :=
      ⟨hkind, by rw [hunknown ref.name hfirst]; exact Bool.false_ne_true,
        not_renamesTag_of_ok (hfree ref.name hfirst) hok href⟩
    obtain ⟨hskipped, hkeys, hstands⟩ :=
      standsFor_visit (p := p) htypedef (hfree ref.name hfirst) hok hmeaning
    have hrules : (s.visit p d).rules = s.rules := rules_visit s p d
    rw [walk_cons_of_typedef hkind]
    -- so the rest is a chain of the name that is registered now
    have hmem : ∀ n, n ∈ (s.visit p d).types ↔ n ∈ s.types ∨ n = s.rules.typeName ref.name := by
      intro n
      rw [OrderedMap.mem_iff, hkeys, List.mem_append, List.mem_singleton, OrderedMap.mem_iff]
    generalize s.visit p d = u at hskipped hkeys hstands hrules hmem
    rw [← hrules] at hunknown hdistinct hnew hfree hkeys hstands hmem ⊢
    have hok' : u.converter.type false (.named ref) = .ok (.named (u.rules.typeName ref.name)) :=
      type_of_mem_types ref (hnamed ref.name hfirst) (hunknown ref.name hfirst)
        ((hmem _).2 (.inr rfl)) false
    have hfree' : ∀ other ∈ names, u.rules.typeName other ∉ u.types := by
      intro other hother hown
      rcases (hmem _).1 hown with hown | heq
      · exact hfree other (hrest other hother) hown
      · exact hnew (heq ▸ List.mem_map_of_mem hother)
    have hrun := ih (s := u) (fun other hother => hnamed other (hrest other hother))
      (fun other hother => hunknown other (hrest other hother)) hdistinct hfree' hok' hstands
      (by rintro ref' ⟨⟩; exact hunknown ref.name hfirst)
    obtain ⟨hreports, hall, hnames⟩ := hrun
    refine ⟨hreports.trans hskipped, ?_, ?_⟩
    · rw [hall, hkeys, List.append_assoc]
      rfl
    · intro other hother
      rcases List.mem_cons.1 hother with rfl | hother
      · refine hstands.of_prefix ?_
        rw [walk_eq_visitAll]
        exact (extends_visitAll u _).types
      · exact hnames other hother

/-- **`void` keeps its two rules to itself.** Of `void` and of all typedefs of it, one behind the
other, only `void` leaves the results of a function empty and its pointers opaque. Each typedef is
registered, and its name stands for `void`; but it is the result of a function that returns it and
the pointee of a pointer to it. -/
theorem void_typedefs_iff (options : SessionOptions) (path : String) (names : List String)
    (decls : List Decl) (h : TypedefChain (.builtin .void) names decls)
    (hnamed : ∀ name ∈ names, name ≠ "")
    (hunknown : ∀ name ∈ names, Catalog.typedef? ((start options).rules.trim name) = none)
    (hdistinct : (names.map (start options).rules.typeName).Nodup) :
    let s := (start options).process ⟨path, decls⟩
    s.skipped = [] ∧ s.types.keys = names.map s.rules.typeName ∧
    ∀ t, (t = .builtin .void ∨ ∃ ref, t = .named ref ∧ ref.name ∈ names) →
      ∃ type, s.converter.type false t = .ok type ∧ s.types.StandsFor .void type ∧
        (s.converter.TreatsAsVoid t ↔ t = .builtin .void) ∧
        (t ≠ .builtin .void →
          (∀ params isVariadic converted, s.converter.params params = .ok converted →
            ∃ signature, s.converter.signature ⟨params, isVariadic, t⟩ = .ok signature ∧
              signature.results = [type]) ∧
          ∀ asParam, s.converter.type asParam (.pointer t) = .ok (.pointer type)) := by
  intro s
  have hrules : s.rules = (start options).rules := by
    show ((start options).process ⟨path, decls⟩).rules = _
    rw [process_eq_visitAll]
    exact rules_visitAll (start options) _
  have hvoid : (start options).converter.type false (.builtin .void) = .ok .void :=
    Converter.type_eq_void_iff.2 rfl
  obtain ⟨hskipped, hkeys, hstands⟩ := walk_of_typedefChain (p := ⟨path, []⟩) h hnamed
    hunknown hdistinct (fun name _ hmem => nomatch hmem) hvoid .self (fun ref href => nomatch href)
  refine ⟨hskipped, by rw [hrules]; exact hkeys, ?_⟩
  rintro t (rfl | ⟨ref, rfl, href⟩)
  · exact ⟨.void, Converter.type_eq_void_iff.2 rfl, .self, Converter.treatsAsVoid_iff,
      fun hne => absurd rfl hne⟩
  · have hmem : s.rules.typeName ref.name ∈ s.types := by
      rw [hrules, OrderedMap.mem_iff]
      show _ ∈ ((start options).process ⟨path, decls⟩).types.keys
      rw [process, hkeys]
      exact List.mem_append_right _ (List.mem_map_of_mem href)
    have htype := fun asParam => type_of_mem_types ref (hnamed ref.name href)
      (by rw [hrules]; exact hunknown ref.name href) hmem asParam
    refine ⟨.named (s.rules.typeName ref.name), htype false, ?_, Converter.treatsAsVoid_iff, ?_⟩
    · rw [hrules]
      exact hstands ref.name href
    · intro _
      constructor
      · intro params isVariadic converted hparams
        exact Converter.exists_signature_of_named (htype false) hparams isVariadic
      · exact Converter.type_pointer_of_named (htype false)

/-- The declaration of a typedef in a header. -/
def logAlias (name : String) (underlying : CType) : Decl where
  kind := .typedef name underlying
  location := ⟨some "log.h", 1, 0⟩

/-- `typedef void nothing_t;` -/
def nothingAlias : Decl := logAlias "nothing_t" (.builtin .void)

/-- `typedef nothing_t none_t;` -/
def noneAlias : Decl := logAlias "none_t" (.named ⟨"nothing_t", [], none⟩)

theorem void_typedefs_of_log :
    let s := (start {}).process ⟨"log.h", [nothingAlias, noneAlias]⟩
    TypedefChain (.builtin .void) ["nothing_t", "none_t"] [nothingAlias, noneAlias] ∧
    (∀ name ∈ ["nothing_t", "none_t"], name ≠ "") ∧
    (∀ name ∈ ["nothing_t", "none_t"], Catalog.typedef? ((start {}).rules.trim name) = none) ∧
    (["nothing_t", "none_t"].map (start {}).rules.typeName).Nodup ∧
    s.skipped = [] ∧ s.types.keys = ["nothing_t", "none_t"].map s.rules.typeName ∧
    ∃ type, s.converter.type false (.named ⟨"none_t", [], none⟩) = .ok type ∧
      s.types.StandsFor .void type ∧
      ¬ s.converter.TreatsAsVoid (.named ⟨"none_t", [], none⟩) := by
  intro s
  have hchain : TypedefChain (.builtin .void) ["nothing_t", "none_t"]
      [nothingAlias, noneAlias] :=
    .cons rfl (show (⟨"nothing_t", [], none⟩ : NamedRef).name = _ from rfl)
      (.cons rfl (show (⟨"none_t", [], none⟩ : NamedRef).name = _ from rfl) .nil)
  have hnamed : ∀ name ∈ ["nothing_t", "none_t"], name ≠ "" := by decide
  have hunknown : ∀ name ∈ ["nothing_t", "none_t"],
      Catalog.typedef? ((start {}).rules.trim name) = none := by
    decide +kernel
  have hdistinct : (["nothing_t", "none_t"].map (start {}).rules.typeName).Nodup := by
    decide +kernel
  obtain ⟨hskipped, hkeys, htypes⟩ := void_typedefs_iff {} "log.h" ["nothing_t", "none_t"]
    [nothingAlias, noneAlias] hchain hnamed hunknown hdistinct
  obtain ⟨type, htype, hstands, hvoid, -⟩ := htypes (.named ⟨"none_t", [], none⟩)
    (.inr ⟨_, rfl, by decide⟩)
  exact ⟨hchain, hnamed, hunknown, hdistinct, hskipped, hkeys, type, htype, hstands,
    fun h => nomatch hvoid.1 h⟩

/-- A function that returns a typedef of `void` has a result, and a pointer to the typedef is not
opaque. -/
theorem nothing_converted :
    let s := (start {}).process ⟨"log.h", [nothingAlias]⟩
    s.skipped = [] ∧ s.types.keys = ["NothingT"] ∧
    s.types.StandsFor .void (.named "NothingT") ∧
    s.converter.signature ⟨[], false, .named ⟨"nothing_t", [], none⟩⟩ =
      .ok ⟨[], false, [.named "NothingT"]⟩ ∧
    s.converter.type true (.pointer (.named ⟨"nothing_t", [], none⟩)) =
      .ok (.pointer (.named "NothingT")) := by
  intro s
  have hget : s.types.get? "NothingT" = some ⟨.alias, .void⟩ := rfl
  have hname : s.rules.typeName "nothing_t" = "NothingT" := by decide +kernel
  have hmem : s.rules.typeName "nothing_t" ∈ s.types := by decide +kernel
  have hunknown : Catalog.typedef? (s.rules.trim "nothing_t") = none := by decide +kernel
  have htype : s.converter.type false (.named ⟨"nothing_t", [], none⟩) =
      .ok (.named "NothingT") := by
    have h := type_of_mem_types ⟨"nothing_t", [], none⟩ (by decide) hunknown hmem false
    rwa [hname] at h
  have hsignature : s.converter.signature ⟨[], false, .named ⟨"nothing_t", [], none⟩⟩ =
      .ok ⟨[], false, [.named "NothingT"]⟩ := by
    have hparams : s.converter.params [] = .ok ([], false) := by
      rw [Converter.params]
      rfl
    exact Converter.signature_eq_ok (f := ⟨[], false, .named ⟨"nothing_t", [], none⟩⟩) hparams htype
  exact ⟨by decide +kernel, by decide +kernel, .named hget .self, hsignature,
    Converter.type_pointer_of_named htype true⟩

end Session

end HeaderBindings
