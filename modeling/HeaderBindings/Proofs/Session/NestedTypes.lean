import HeaderBindings.Proofs.Conversion.Leaves
import HeaderBindings.Proofs.Session.Registration
import Mathlib.Data.List.Pairwise

/-!
# Types that are declared inside a record

The fields of a record are converted when the record is visited, and what is declared inside it is
visited after that. So a field can refer to the record itself, whose name is registered by then, but
not to a type that is declared inside the record: that conversion fails, although the nested type is
registered in the end (`nested_types_resolve_iff`).

## What is looked at

A header with one record is walked from the start (`Encloses`). Whatever is declared inside the
record stands alone, which means that it can be converted in any session, and the fields of the
record are scalars or refer, behind pointers and arrays, to the record or to types inside it. All
target names are different, so no type is registered in the place of another one. Under these
assumptions nothing can go wrong but two things, and the theorem tells what comes of each.

* A field refers to a type inside the record. When the record is visited, its own name is the only
  one that is registered, so the first such field makes the conversion fail (`Encloses.failsAt`).
  The record is reported in front of everything inside it (`Encloses.reported`) and is not
  registered, neither now nor later (`Encloses.not_mem_types`).
* An enumeration has an enumerator whose value cannot be computed (`Decl.Evaluates`). Then the
  enumeration is not registered.

What is inside the record is registered in either case (`Encloses.mem_types_inside`), because it
does not depend on the record.
-/

namespace HeaderBindings

/-- The values of an enumeration can be computed. -/
def Decl.Evaluates (d : Decl) : Prop :=
  ∀ name items, d.kind = .enum name items → ∃ values, Enumeration.values items = .ok values

namespace Session

variable {s t : Session} {p : Place} {d r : Decl} {target : String}

theorem process_singleton (s : Session) (path : String) (d : Decl) :
    s.process ⟨path, [d]⟩ = s.visitAll (Place.visitsOf ⟨path, []⟩ d) := by
  rw [process_eq_visitAll]
  show s.visitAll (Place.visitsOf ⟨path, []⟩ d ++ []) = _
  rw [List.append_nil]

/-! ### Declarations that stand alone

Scalars and enumerations need no registered type, and the values of enumerators are computed from
their own enumeration. So nothing that stands alone depends on when it is visited.
-/

/-- A declaration stands alone if its conversion needs no declared type: a record whose fields are
builtin scalars, an enumeration, a function with builtin types, or what has nothing to convert. -/
inductive StandsAlone (s : Session) (d : Decl) : Prop where
  | record {name tag body} : d.kind = .record name tag body → name ≠ "" →
      (∀ field ∈ body, ∃ b type, field.type = .builtin b ∧ Catalog.builtin? b = some type) →
      StandsAlone s d
  | enum {name items} : d.kind = .enum (some name) items → name ≠ "" → StandsAlone s d
  | function {f signature} : d.kind = .function f → s.converter.signature f.type = .ok signature →
      StandsAlone s d
  | other : s.declaredType? d = none → (∀ f, d.kind ≠ .function f) →
      (∀ name items, d.kind ≠ .enum name items) → StandsAlone s d

/-- **What stands alone can be converted in any session**, if it is no enumeration without
values. -/
theorem StandsAlone.not_failsAt (h : s.StandsAlone d) (hvalues : d.Evaluates)
    (hrules : t.rules = s.rules) (hmore : ∀ n ∈ s.types, n ∈ t.types) (label : String)
    (cause : ConversionError) : ¬ t.FailsAt p d label cause := by
  intro hfails
  cases hfails with
  | @function f _ hkind _ hfail =>
    cases h with
    | function hkind' hok =>
      cases hkind.symm.trans hkind'
      have hknown : s.converter.KnownBy t.converter := ⟨hrules, hmore⟩
      cases (Converter.signature_of_knownBy hknown hok).symm.trans hfail
    | other _ hother _ => exact hother f hkind
    | record hkind' | enum hkind' => cases hkind.symm.trans hkind'
  | @record name tag body _ hkind hname _ hfail =>
    cases h with
    | record hkind' _ hfields =>
      cases hkind.symm.trans hkind'
      have hok : ∃ converted, (t.openRecord (t.rules.typeName name)).converter.record tag body =
          .ok converted := by
        refine Converter.exists_record_iff.2 ?_
        intro field hfield
        obtain ⟨b, type, hb, htype⟩ := hfields field hfield
        rw [hb]
        exact ⟨type, Converter.type_of_builtin? htype false⟩
      obtain ⟨converted, hok⟩ := hok
      cases hok.symm.trans hfail
    | other hnone => cases hnone.symm.trans (declaredType?_record hkind hname)
    | function hkind' | enum hkind' => cases hkind.symm.trans hkind'
  | typedef htypedef =>
    cases h with
    | other hnone =>
      rw [← declaredType?_congr hrules] at hnone
      cases hnone.symm.trans htypedef.declaredType?_eq
    | record hkind | enum hkind | function hkind => cases htypedef.kind.symm.trans hkind
  | enum hkind hfail =>
    obtain ⟨values, hok⟩ := hvalues _ _ hkind
    cases hok.symm.trans hfail

/-! ### Types that no step registers

If the conversion of a declaration fails, its name may still be registered by another declaration.
That is ruled out here by different target names.
-/

/-- If all target names are distinct, each of them belongs to one visit. -/
theorem eq_of_declaredType?_eq {visits : List (Place × Decl)}
    (hdistinct : (visits.filterMap fun v => s.declaredType? v.2).Nodup) {v w : Place × Decl}
    (hv : v ∈ visits) (hw : w ∈ visits) (htarget : s.declaredType? v.2 = some target)
    (htarget' : s.declaredType? w.2 = some target) : v = w := by
  rw [List.Nodup, List.pairwise_filterMap] at hdistinct
  have hsymm : Std.Symm fun v w : Place × Decl => ∀ n, s.declaredType? v.2 = some n →
      ∀ m, s.declaredType? w.2 = some m → n ≠ m :=
    ⟨fun v w h n hn m hm heq => h m hm n hn heq.symm⟩
  by_contra hne
  exact hdistinct.forall hv hw hne target htarget target htarget' rfl

/-- A target name that no other declaration has is not registered if its own declaration fails. -/
theorem not_mem_types_of_fails {visits : List (Place × Decl)}
    (hdistinct : (visits.filterMap fun v => s.declaredType? v.2).Nodup)
    (hnew : s.types.get? target = none) {w : Place × Decl} (hw : w ∈ visits)
    (htarget : s.declaredType? w.2 = some target)
    (hfails : ∀ v ∈ s.steps visits, (v.place, v.decl) = w →
      ∃ label cause, v.session.FailsAt v.place v.decl label cause) :
    target ∉ (s.visitAll visits).types := by
  intro hmem
  obtain ⟨type, hget⟩ := OrderedMap.exists_get?_of_mem hmem
  obtain ⟨v, hv, hdeclared, hfree, -, heq⟩ := exists_step_of_get? hnew hget
  -- the step that registers the name visits its one declaration
  have hown : (v.place, v.decl) = w := by
    rw [declaredType?_congr (rules_of_mem_steps hv)] at hdeclared
    exact eq_of_declaredType?_eq hdistinct (mem_of_mem_steps hv) hw hdeclared htarget
  obtain ⟨label, cause, hfails⟩ := hfails v hv hown
  -- and it cannot have registered anything
  have hafter : v.after.types = v.session.types := by
    show (v.session.visit v.place v.decl).types = _
    rw [visit_of_failsAt hfails, skip_eq]
  rw [hafter] at heq
  apply hfree
  rw [heq]
  exact Registry.mem_register.2 (.inl rfl)

/-- Visits none of which fails report nothing. -/
theorem skipped_visitAll_eq {visits : List (Place × Decl)}
    (hok : ∀ v ∈ s.steps visits, ∀ label cause, ¬ v.session.FailsAt v.place v.decl label cause) :
    (s.visitAll visits).skipped = s.skipped := by
  refine steps_induction (motive := fun _ t => t.skipped = s.skipped) rfl ?_
  intro before v hv ih
  have hsame := (outcome_visit v.session v.place v.decl).skipped_eq (hok v hv)
  exact hsame.trans ih

/-! ### A record and what is declared inside it

The walk visits the record first and then, with the record around them, the declarations inside it.
At the first visit nothing is registered but the record, at the later ones nothing is needed.
-/

/-- If a type refers to a declared type at all, then to the one with a given target name. -/
def RefersOnlyTo (s : Session) (target : String) (t : CType) : Prop :=
  ∀ ref, t.leaf = .named ref → s.rules.typeName ref.name = target

/-- A record declares other types inside it, all of which stand alone. Behind pointers and arrays,
each of its own fields is a builtin scalar, or refers to the record itself or a type inside it. -/
structure Encloses (s : Session) (p : Place) (r : Decl) (name : String) (tag : Tag)
    (body : List (Slot CType)) : Prop where
  kind : r.kind = .record name tag body
  named : name ≠ ""
  alone : ∀ v ∈ (p.inside r.kind).visits r.children, s.StandsAlone v.2
  distinct : ((p.visitsOf r).filterMap fun v => s.declaredType? v.2).Nodup
  sized : ∀ field ∈ body, field.type.IsSized
  leaves : ∀ field ∈ body,
    (∃ b type, field.type.leaf = .builtin b ∧ Catalog.builtin? b = some type) ∨
    ∃ ref, field.type.leaf = .named ref ∧ ref.name ≠ "" ∧
      Catalog.typedef? (s.rules.trim ref.name) = none ∧
      ∃ v ∈ p.visitsOf r, s.declaredType? v.2 = some (s.rules.typeName ref.name)

namespace Encloses

variable {options : SessionOptions} {name : String} {tag : Tag} {body : List (Slot CType)}

theorem visitsOf_eq (h : s.Encloses p r name tag body) :
    p.visitsOf r = (p, r) :: (p.inside r.kind).visits r.children := by
  apply Place.visitsOf_of_isEntered
  rw [h.kind]
  rfl

theorem declaredType?_eq (h : s.Encloses p r name tag body) :
    s.declaredType? r = some (s.rules.typeName name) :=
  declaredType?_record h.kind h.named

/-- **A field can be converted exactly if it refers to no type inside the record**: when the record
is visited, its own name is the only one that is registered. -/
theorem type_field (h : (start options).Encloses p r name tag body) {field : Slot CType}
    (hfield : field ∈ body) :
    ((start options).RefersOnlyTo ((start options).rules.typeName name) field.type →
      ∃ type, ((start options).openRecord ((start options).rules.typeName name)).converter.type
        false field.type = .ok type) ∧
    ∀ ref, field.type.leaf = .named ref →
      (start options).rules.typeName ref.name ≠ (start options).rules.typeName name →
      ((start options).openRecord ((start options).rules.typeName name)).converter.type
        false field.type = .error (.unresolvedAlias ref.name) := by
  generalize hc : ((start options).openRecord
    ((start options).rules.typeName name)).converter = c
  have hrules : c.rules = (start options).rules := by rw [← hc]; rfl
  have hmem : ∀ n, n ∈ c.types ↔ n = (start options).rules.typeName name := by
    intro n
    rw [← hc]
    show n ∈ (start options).types.register _ _ ↔ _
    rw [Registry.mem_register]
    exact or_iff_left fun hmem => nomatch hmem
  have hreference : ∀ ref, field.type.leaf = .named ref → ∀ asParam,
      c.type asParam field.type.leaf =
        if (start options).rules.typeName ref.name = (start options).rules.typeName name then
          .ok (.named ((start options).rules.typeName ref.name))
        else .error (.unresolvedAlias ref.name) := by
    intro ref href asParam
    rcases h.leaves field hfield with ⟨b, type, hb, -⟩ | ⟨ref', href', hne, hunknown, -⟩
    · cases href.symm.trans hb
    · cases href.symm.trans href'
      rw [← hrules] at hunknown
      rw [href, Converter.type, Converter.reference_of_unknown hne hunknown, hrules]
      exact if_congr (hmem _) rfl rfl
  constructor
  · intro honly
    apply Converter.exists_type_of_leaf (h.sized field hfield)
    rcases h.leaves field hfield with ⟨b, type, hb, htype⟩ | ⟨ref, href, -⟩
    · rw [hb]
      exact ⟨type, Converter.type_of_builtin? htype false⟩
    · exact ⟨_, (hreference ref href false).trans (if_pos (honly ref href))⟩
  · intro ref href hne
    apply Converter.type_of_leaf_error
    intro asParam
    rw [hreference ref href, if_neg hne]

/-- A step of the walk visits the record itself, as the first one, or something inside it. -/
theorem step_cases (h : s.Encloses p r name tag body) {v : Step}
    (hv : v ∈ s.steps (p.visitsOf r)) :
    v = ⟨s, p, r⟩ ∨ (v.place, v.decl) ∈ (p.inside r.kind).visits r.children := by
  rw [h.visitsOf_eq, steps] at hv
  rcases List.mem_cons.1 hv with rfl | hv
  · exact .inl rfl
  · exact .inr (mem_of_mem_steps hv)

/-- What stands alone inside the record can be converted when its turn comes. -/
theorem not_failsAt_inside (h : (start options).Encloses p r name tag body) {v : Step}
    (hv : v ∈ (start options).steps (p.visitsOf r))
    (hinside : (v.place, v.decl) ∈ (p.inside r.kind).visits r.children)
    (hvalues : v.decl.Evaluates) (label : String) (cause : ConversionError) :
    ¬ v.session.FailsAt v.place v.decl label cause :=
  (h.alone _ hinside).not_failsAt hvalues (rules_of_mem_steps hv) (fun _ hn => nomatch hn) label
    cause

/-- **The record can be converted exactly if no field refers to a type inside it.** -/
theorem not_failsAt_iff (h : (start options).Encloses p r name tag body) :
    (∀ label cause, ¬ (start options).FailsAt p r label cause) ↔
      ∀ field ∈ body,
        (start options).RefersOnlyTo ((start options).rules.typeName name) field.type := by
  constructor
  · intro hok field hfield ref href
    cases hrecord : ((start options).openRecord
        ((start options).rules.typeName name)).converter.record tag body with
    | error cause =>
      exact absurd (.record h.kind h.named (fun hmem => nomatch hmem) hrecord) (hok _ cause)
    | ok converted =>
      obtain ⟨type, htype⟩ := Converter.exists_record_iff.1 ⟨converted, hrecord⟩ field hfield
      by_contra hne
      cases htype.symm.trans ((h.type_field hfield).2 ref href hne)
  · intro honly label cause hfails
    cases hfails with
    | record hkind _ _ hfail =>
      cases h.kind.symm.trans hkind
      obtain ⟨converted, hok⟩ := Converter.exists_record_iff.2 fun field hfield =>
        (h.type_field hfield).1 (honly field hfield)
      cases hok.symm.trans hfail
    | function hkind | enum hkind => cases h.kind.symm.trans hkind
    | typedef htypedef => cases h.kind.symm.trans htypedef.kind

/-- **The record fails at its first field that refers to a type inside it.** -/
theorem failsAt (h : (start options).Encloses p r name tag body)
    {before after : List (Slot CType)} {field : Slot CType} {ref : NamedRef}
    (hbody : body = before ++ field :: after)
    (hbefore : ∀ other ∈ before,
      (start options).RefersOnlyTo ((start options).rules.typeName name) other.type)
    (href : field.type.leaf = .named ref)
    (hne : (start options).rules.typeName ref.name ≠ (start options).rules.typeName name) :
    (start options).FailsAt p r (p.qualified name) (.unresolvedAlias ref.name) := by
  subst hbody
  refine .record h.kind h.named (fun hmem => nomatch hmem) (Converter.record_of_error ?_ ?_)
  · intro other hother
    exact (h.type_field (List.mem_append_left _ hother)).1 (hbefore other hother)
  · exact (h.type_field (List.mem_append_right _ List.mem_cons_self)).2 ref href hne

/-- A record that fails is not registered: no other declaration has its target name. -/
theorem not_mem_types (h : (start options).Encloses p r name tag body) {label : String}
    {cause : ConversionError} (hfails : (start options).FailsAt p r label cause) :
    (start options).rules.typeName name ∉ ((start options).visitAll (p.visitsOf r)).types := by
  have hr : (p, r) ∈ p.visitsOf r := by
    rw [h.visitsOf_eq]
    exact List.mem_cons_self
  refine not_mem_types_of_fails h.distinct rfl hr h.declaredType?_eq ?_
  intro v hv hown
  rcases h.step_cases hv with rfl | hinside
  · exact ⟨label, cause, hfails⟩
  · -- inside the record, its target name is that of another type
    have hdistinct := h.distinct
    rw [h.visitsOf_eq, List.filterMap_cons, h.declaredType?_eq] at hdistinct
    rw [hown] at hinside
    exact absurd (List.mem_filterMap.2 ⟨_, hinside, h.declaredType?_eq⟩)
      (List.nodup_cons.1 hdistinct).1

/-- An enumeration without values is not registered. -/
theorem evaluates_of_mem_types (h : (start options).Encloses p r name tag body)
    (hall : ∀ v ∈ p.visitsOf r, ∀ target, (start options).declaredType? v.2 = some target →
      target ∈ ((start options).visitAll (p.visitsOf r)).types)
    {v : Place × Decl} (hv : v ∈ p.visitsOf r) : v.2.Evaluates := by
  intro own items hkind
  cases hvalues : Enumeration.values items with
  | ok values => exact ⟨values, rfl⟩
  | error cause =>
    have hinside : v ∈ (p.inside r.kind).visits r.children := by
      rw [h.visitsOf_eq] at hv
      rcases List.mem_cons.1 hv with rfl | hv
      · cases h.kind.symm.trans hkind
      · exact hv
    have hdeclares : ∃ target, (start options).declaredType? v.2 = some target := by
      rw [declaredType?_enum hkind]
      cases h.alone v hinside with
      | enum hkind' hname =>
        cases hkind.symm.trans hkind'
        rw [Option.filter_some, decide_eq_true hname]
        exact ⟨_, rfl⟩
      | record hkind' | function hkind' => cases hkind.symm.trans hkind'
      | other _ _ hother => exact absurd hkind (hother _ _)
    obtain ⟨target, htarget⟩ := hdeclares
    refine absurd (hall v hv target htarget)
      (not_mem_types_of_fails h.distinct rfl hv htarget ?_)
    rintro w - rfl
    exact ⟨_, cause, .enum hkind hvalues⟩

/-- What stands alone inside the record is registered. -/
theorem mem_types_inside (h : (start options).Encloses p r name tag body) {w : Place × Decl}
    (hinside : w ∈ (p.inside r.kind).visits r.children) (hvalues : w.2.Evaluates)
    (htarget : (start options).declaredType? w.2 = some target) :
    target ∈ ((start options).visitAll (p.visitsOf r)).types := by
  have hw : w ∈ p.visitsOf r := by
    rw [h.visitsOf_eq]
    exact List.mem_cons_of_mem _ hinside
  refine mem_types_of_not_fails hw htarget ?_
  rintro v hv rfl
  exact h.not_failsAt_inside hv hinside hvalues

/-- If no field refers to a type inside the record, nothing fails. -/
theorem not_failsAt_step (h : (start options).Encloses p r name tag body)
    (honly : ∀ field ∈ body,
      (start options).RefersOnlyTo ((start options).rules.typeName name) field.type)
    (hvalues : ∀ v ∈ p.visitsOf r, v.2.Evaluates) {v : Step}
    (hv : v ∈ (start options).steps (p.visitsOf r)) (label : String) (cause : ConversionError) :
    ¬ v.session.FailsAt v.place v.decl label cause := by
  rcases h.step_cases hv with rfl | hinside
  · exact h.not_failsAt_iff.2 honly label cause
  · exact h.not_failsAt_inside hv hinside (hvalues _ (mem_of_mem_steps hv)) label cause

/-- **All types are registered without a report exactly if no field refers to a type inside the
record**, and all enumerations have values. -/
theorem bound_iff (h : (start options).Encloses p r name tag body) :
    ((∀ v ∈ p.visitsOf r, ∀ n, (start options).declaredType? v.2 = some n →
        n ∈ ((start options).visitAll (p.visitsOf r)).types) ∧
      ((start options).visitAll (p.visitsOf r)).skipped = []) ↔
    (∀ field ∈ body,
        (start options).RefersOnlyTo ((start options).rules.typeName name) field.type) ∧
      ∀ v ∈ p.visitsOf r, v.2.Evaluates := by
  constructor
  · rintro ⟨hall, -⟩
    refine ⟨?_, fun v hv => h.evaluates_of_mem_types hall hv⟩
    rw [← h.not_failsAt_iff]
    intro label cause hfails
    have hr : (p, r) ∈ p.visitsOf r := by
      rw [h.visitsOf_eq]
      exact List.mem_cons_self
    exact h.not_mem_types hfails (hall _ hr _ h.declaredType?_eq)
  · rintro ⟨honly, hvalues⟩
    refine ⟨?_, skipped_visitAll_eq fun v hv => h.not_failsAt_step honly hvalues hv⟩
    intro v hv n hn
    refine (mem_types_visitAll_iff ?_).2 ⟨v, hv, hn⟩
    exact fun w hw _ => h.not_failsAt_step honly hvalues hw

/-- A record that fails is reported before all that is inside it. -/
theorem reported (h : (start options).Encloses p r name tag body) {label : String}
    {cause : ConversionError} (hfails : (start options).FailsAt p r label cause)
    (hholds : p.holds r) :
    [⟨label, p.file, cause⟩] <+: ((start options).visitAll (p.visitsOf r)).skipped := by
  have hreports : ((start options).visit p r).skipped = [⟨label, p.file, cause⟩] := by
    rw [visit_of_failsAt hfails, skip_eq, if_pos hholds]
    rfl
  rw [h.visitsOf_eq, visitAll_cons, ← hreports]
  exact (extends_visitAll _ _).skipped

end Encloses

/-- **A record and the types inside it are all registered, and nothing is reported, exactly if no
field of the record refers to one of these types** (and all enumerations have values). The types
inside it are registered in either case. If there is such a field, the record is not: it is
reported, first of all, with the first of these references as unresolved. -/
theorem nested_types_resolve_iff (options : SessionOptions) (path : String) {r : Decl}
    {name : String} {tag : Tag} {body : List (Slot CType)}
    (h : (start options).Encloses ⟨path, []⟩ r name tag body) :
    let s := (start options).process ⟨path, [r]⟩
    let target := (start options).rules.typeName
    ((∀ v ∈ Place.visitsOf ⟨path, []⟩ r, ∀ n, (start options).declaredType? v.2 = some n →
          n ∈ s.types) ∧ s.skipped = [] ↔
      (∀ field ∈ body, (start options).RefersOnlyTo (target name) field.type) ∧
        ∀ v ∈ Place.visitsOf ⟨path, []⟩ r, v.2.Evaluates) ∧
    (∀ v ∈ (Place.inside ⟨path, []⟩ r.kind).visits r.children, v.2.Evaluates →
      ∀ n, (start options).declaredType? v.2 = some n → n ∈ s.types) ∧
    ∀ before field after ref, body = before ++ field :: after →
      (∀ other ∈ before, (start options).RefersOnlyTo (target name) other.type) →
      field.type.leaf = .named ref → target ref.name ≠ target name →
      target name ∉ s.types ∧
        (r.file? = some path → [⟨name, path, .unresolvedAlias ref.name⟩] <+: s.skipped) := by
  intro s target
  have hs : s = (start options).visitAll (Place.visitsOf ⟨path, []⟩ r) :=
    process_singleton _ path r
  rw [hs]
  refine ⟨h.bound_iff, fun v hinside hvalues n => h.mem_types_inside hinside hvalues, ?_⟩
  intro before field after ref hbody hbefore href hne
  have hfails := h.failsAt hbody hbefore href hne
  refine ⟨h.not_mem_types hfails, ?_⟩
  intro hfile
  exact h.reported hfails (decide_eq_true hfile)

/-- `struct pool { struct slot { int used; }; enum mode { IDLE }; … };` with fields of its own. -/
def poolWith (fields : List (Slot CType)) : Decl where
  kind := .record "pool" .struct fields
  children :=
    [{ kind := .record "slot" .struct [⟨some "used", .builtin .int⟩]
       location := ⟨some "pool.h", 2, 0⟩ },
     { kind := .enum (some "mode") [⟨"IDLE", none⟩], location := ⟨some "pool.h", 3, 0⟩ }]
  location := ⟨some "pool.h", 1, 0⟩

/-- A reference to the struct that is declared inside `pool`. -/
def slotRef : NamedRef := ⟨"slot", [], some .struct⟩

/-- A reference to `pool` itself. -/
def poolRef : NamedRef := ⟨"pool", [], some .struct⟩

theorem encloses_poolWith {fields : List (Slot CType)}
    (hsized : ∀ field ∈ fields, field.type.IsSized)
    (hleaves : ∀ field ∈ fields, field.type.leaf = .builtin .int ∨
      field.type.leaf = .named slotRef ∨ field.type.leaf = .named poolRef) :
    (start {}).Encloses ⟨"pool.h", []⟩ (poolWith fields) "pool" .struct fields where
  kind := rfl
  named := by decide
  alone := by
    intro v hv
    rcases List.mem_cons.1 hv with rfl | hv
    · refine .record rfl (by decide) ?_
      intro field hfield
      obtain rfl := List.mem_singleton.1 hfield
      exact ⟨.int, _, rfl, rfl⟩
    · obtain rfl := List.mem_singleton.1 hv
      exact .enum rfl (by decide)
  distinct := by
    have hnames : ((Place.visitsOf ⟨"pool.h", []⟩ (poolWith fields)).filterMap
        fun v => (start {}).declaredType? v.2) = ["Pool", "Slot", "Mode"] := rfl
    rw [hnames]
    decide
  sized := hsized
  leaves := by
    intro field hfield
    rcases hleaves field hfield with hleaf | hleaf | hleaf
    · exact .inl ⟨.int, _, hleaf, rfl⟩
    · exact .inr ⟨slotRef, hleaf, by decide, by decide +kernel, _,
        .tail _ (.head _), rfl⟩
    · exact .inr ⟨poolRef, hleaf, by decide, by decide +kernel, _, .head _, rfl⟩

theorem nested_types_of_pool :
    let body := [⟨some "size", .builtin .int⟩, ⟨some "next", .pointer (.named poolRef)⟩]
    let s := (start {}).process ⟨"pool.h", [poolWith body]⟩
    (start {}).Encloses ⟨"pool.h", []⟩ (poolWith body) "pool" .struct body ∧
    s.types.keys = ["Pool", "Slot", "Mode"] ∧ s.skipped = [] := by
  intro body s
  have h : (start {}).Encloses ⟨"pool.h", []⟩ (poolWith body) "pool" .struct body := by
    apply encloses_poolWith
    · simp [body, CType.IsSized]
    · simp [body, CType.leaf]
  refine ⟨h, by decide +kernel, ((nested_types_resolve_iff {} "pool.h" h).1.2 ⟨?_, ?_⟩).2⟩
  · intro field hfield ref href
    rcases List.mem_cons.1 hfield with rfl | hfield
    · cases href
    · obtain rfl := List.mem_singleton.1 hfield
      cases href
      rfl
  · intro v hv name items hkind
    rcases List.mem_cons.1 hv with rfl | hv
    · cases hkind
    · rcases List.mem_cons.1 hv with rfl | hv
      · cases hkind
      · obtain rfl := List.mem_singleton.1 hv
        cases hkind
        exact ⟨[0], rfl⟩

/-- A field whose type is declared inside the record keeps the record from being registered. -/
theorem nested_type_unresolved :
    let body := [⟨some "first", .named slotRef⟩]
    let s := (start {}).process ⟨"pool.h", [poolWith body]⟩
    (start {}).Encloses ⟨"pool.h", []⟩ (poolWith body) "pool" .struct body ∧
    s.types.keys = ["Slot", "Mode"] ∧
    s.skipped = [⟨"pool", "pool.h", .unresolvedAlias "slot"⟩] := by
  intro body s
  refine ⟨encloses_poolWith ?_ ?_, by decide +kernel, by decide +kernel⟩
  · simp [body, CType.IsSized]
  · simp [body, CType.leaf]

end Session

end HeaderBindings
