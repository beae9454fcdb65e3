import HeaderBindings.Proofs.Session.BoundTypes
import HeaderBindings.Proofs.Session.Registration

/-!
# The types that a header binds

The types that are bound for a header are those that it declares itself, each at its first
declaration. This can be read off the declarations (`ownTypes`): nothing of it depends on the
headers that are walked before, as long as these do not declare the same types as their own
(`labels_visitAll`).

What is compared is the label of a binding, which is the name of the type and the documentation of
the declaration. What the type is, stands in the registry as well and is treated there.

The proof follows a walk and keeps two facts about the header that is being walked (`BindsOwn`): its
bound types are the own types of the declarations visited so far, and of all types that it declares
at all, exactly those count as bound. The second fact is what makes the first one go on. A visit
binds the type of its declaration unless that counts as bound (`Outcome.bindsNext`), and a
declaration adds to the own types unless the type is among them (`addOwnType`); so both conditions
have to say the same.

At the start of the walk the second fact says that none of the own types of the header counts as
bound. Types count as bound once a header has declared them itself (`declaresOwn_of_mem_emitted`),
so this is where the other headers come in.
-/

namespace HeaderBindings

/-- The name and the documentation of a bound type. The rest of the binding is as registered. -/
def TypeBinding.label (b : TypeBinding) : String × Option String := (b.name, b.doc)

namespace Package

/-- The types that are bound for a header, in order. -/
def typesOf (p : Package) (header : String) : List TypeBinding :=
  (p.bound header).filterMap Binding.type?

theorem typesOf_pushAll (p : Package) (header other : String) (added : List Binding) :
    (p.pushAll header added).typesOf other =
      if other = header then p.typesOf other ++ added.filterMap Binding.type?
      else p.typesOf other := by
  unfold typesOf
  rw [bound_pushAll]
  split
  · rw [List.filterMap_append]
  · rfl

theorem mem_types_of_mem_typesOf {p : Package} {header : String} {b : TypeBinding}
    (h : b ∈ p.typesOf header) : b ∈ p.types := by
  obtain ⟨binding, hbound, htype⟩ := List.mem_filterMap.1 h
  refine List.mem_filterMap.2 ⟨binding, ?_, htype⟩
  unfold bound at hbound
  cases hget : p.byHeader.get? header with
  | none =>
    rw [hget] at hbound
    cases hbound
  | some bindings =>
    rw [hget] at hbound
    exact mem_bindings_iff.2 ⟨header, bindings, hget, hbound⟩

end Package

namespace Session

variable {s t : Session} {p : Place} {d : Decl} {target : String}

/-! ### The type that a visit binds

Visits that register a type and visits of a declaration whose name is taken differ in the registry
only: either way the type is bound now, if it is the first time in its own header.
-/

/-- The labels of the types that are bound for a header, in order. -/
def labels (s : Session) (header : String) : List (String × Option String) :=
  (s.package.typesOf header).map TypeBinding.label

/-- The label of the type that a visit binds: that of the declaration, if this stands in the header
and its type is not bound yet. -/
def newType? (s : Session) (p : Place) (d : Decl) : Option (String × Option String) :=
  (s.declaredType? d).bind fun target =>
    if p.emits && p.holds d && !s.emitted.contains target then some (target, d.doc) else none

/-- A session binds at most one more type for a header. -/
structure BindsNext (s t : Session) (header : String) (new : Option (String × Option String)) :
    Prop where
  emitted : t.emitted = (new.map Prod.fst).toList ++ s.emitted
  labels : t.labels header = s.labels header ++ new.toList

theorem BindsNext.none {header : String} (hemitted : t.emitted = s.emitted)
    (htypes : t.package.typesOf header = s.package.typesOf header) :
    s.BindsNext t header .none := by
  refine ⟨hemitted, ?_⟩
  unfold Session.labels
  rw [htypes]
  exact (List.append_nil _).symm

theorem bindsNext_emitType (hmem : target ∈ s.types) (p : Place) (d : Decl) :
    s.BindsNext (s.emitType p d target) p.file
      (if p.emits && p.holds d && !s.emitted.contains target then some (target, d.doc)
      else .none) := by
  obtain ⟨declared, hget⟩ := OrderedMap.exists_get?_of_mem hmem
  unfold emitType
  split
  · rw [hget]
    refine ⟨rfl, ?_⟩
    unfold Session.labels
    show (((s.package.pushAll p.file [_]).typesOf p.file).map TypeBinding.label) = _
    rw [Package.typesOf_pushAll, if_pos rfl, List.map_append]
    rfl
  · exact .none rfl rfl

theorem bindsNext_declareType (p : Place) (d : Decl) (target : String) (type : DeclaredType) :
    s.BindsNext (s.declareType p d target type) p.file
      (if p.emits && p.holds d && !s.emitted.contains target then some (target, d.doc)
      else .none) := by
  have hmem : target ∈ ({ s with types := s.types.register target type } : Session).types :=
    Registry.mem_register.2 (.inl rfl)
  have h := bindsNext_emitType hmem p d
  exact ⟨h.emitted, h.labels⟩

theorem newType?_of_declared (htarget : s.declaredType? d = some target) (p : Place) :
    s.newType? p d =
      if p.emits && p.holds d && !s.emitted.contains target then some (target, d.doc)
      else none := by
  rw [newType?, htarget]
  rfl

theorem newType?_of_not_declared (h : s.declaredType? d = none) (p : Place) :
    s.newType? p d = none := by
  rw [newType?, h]
  rfl

theorem bindsNext_declareEnum {name : Option String} {items : List Enumerator}
    (hkind : d.kind = .enum name items) (p : Place) :
    s.BindsNext (s.declareEnum p d name) p.file (s.newType? p d) := by
  have htarget := declaredType?_enum (s := s) hkind
  unfold declareEnum
  split
  · next own hown =>
    rw [hown] at htarget
    rw [newType?_of_declared htarget]
    exact bindsNext_declareType p d _ _
  · next hown =>
    rw [hown] at htarget
    rw [newType?_of_not_declared htarget]
    exact .none rfl rfl

theorem typesOf_bindFunction (s : Session) (p : Place) (d : Decl) (f : FunctionDecl)
    (signature : Signature TargetType) (header : String) :
    (s.bindFunction p d f signature).package.typesOf header = s.package.typesOf header := by
  unfold bindFunction
  dsimp only
  split
  · show (s.package.pushAll p.file [_]).typesOf header = _
    rw [Package.typesOf_pushAll]
    split
    · exact List.append_nil _
    · rfl
  · rfl

theorem typesOf_bindEnumerators (s : Session) (p : Place) (d : Decl) (name : Option String)
    (items : List (Enumerator × Int64)) (header : String) :
    (s.bindEnumerators p d name items).package.typesOf header = s.package.typesOf header := by
  obtain ⟨consts, hconsts⟩ := package_bindEnumerators_consts s p d name items
  rw [hconsts, Package.typesOf_pushAll, Binding.filterMap_type?_const, List.append_nil, ite_self]

/-- **A visit binds the type of its declaration, unless it is bound already**, and no other. -/
theorem Outcome.bindsNext (h : Outcome s p d t)
    (hconverts : (s.declaredType? d).isSome → ∀ label cause, ¬ s.FailsAt p d label cause) :
    s.BindsNext t p.file (s.newType? p d) := by
  cases h with
  | passed hpasses =>
    rw [newType?_of_not_declared hpasses.declaredType?_eq_none]
    exact .none rfl rfl
  | failed hfails =>
    have hnone : s.declaredType? d = none :=
      Option.not_isSome_iff_eq_none.1 fun hdeclares => hconverts hdeclares _ _ hfails
    rw [newType?_of_not_declared hnone, skip_eq]
    exact .none rfl rfl
  | function hkind =>
    have hnone : s.declaredType? d = none := by
      unfold declaredType?
      rw [hkind]
    rw [newType?_of_not_declared hnone]
    exact .none rfl (typesOf_bindFunction s p d _ _ p.file)
  | takenRecord hkind hname hmem =>
    rw [newType?_of_declared (declaredType?_record hkind hname)]
    exact bindsNext_emitType hmem p d
  | takenTypedef htypedef hmem =>
    rw [newType?_of_declared htypedef.declaredType?_eq]
    exact bindsNext_emitType hmem p d
  | record hkind hname =>
    rw [newType?_of_declared (declaredType?_record hkind hname)]
    exact bindsNext_declareType p d _ _
  | typedef htypedef =>
    rw [newType?_of_declared htypedef.declaredType?_eq]
    exact bindsNext_declareType p d _ _
  | @enum name items values hkind =>
    have henum := bindsNext_declareEnum (s := s) hkind p
    -- the enumerators come behind the type
    refine ⟨?_, ?_⟩
    · rw [emitted_bindEnumerators, henum.emitted]
    · rw [← henum.labels, labels, labels, typesOf_bindEnumerators]

/-! ### The own types of a header

The own types are computed by a fold over the visits, in the order of the walk. Only prefix rules
are looked at, which are the same throughout a run, so the fold may be taken with the rules of any
session of the run.
-/

/-- A declaration at a place comes behind the own types of a header if it declares a further one. -/
def addOwnType (s : Session) (own : List (String × Option String)) (v : Place × Decl) :
    List (String × Option String) :=
  match s.declaredType? v.2 with
  | some target =>
    if v.1.emits && v.1.holds v.2 && !(own.map Prod.fst).contains target then
      own ++ [(target, v.2.doc)]
    else own
  | none => own

/-- The types that a header declares itself, each with the documentation of its
first declaration. -/
def ownTypes (s : Session) (visits : List (Place × Decl)) : List (String × Option String) :=
  visits.foldl s.addOwnType []

/-- A header declares a type itself. -/
def DeclaresOwn (s : Session) (visits : List (Place × Decl)) (target : String) : Prop :=
  ∃ v ∈ visits, v.1.holds v.2 ∧ s.declaredType? v.2 = some target

/-- What counts as bound behind some visits was bound before, or is declared in one of them. -/
theorem declaresOwn_of_mem_emitted {visits : List (Place × Decl)} (h : s.ConvertsTypes visits)
    (hmem : target ∈ (s.visitAll visits).emitted) :
    target ∈ s.emitted ∨ s.DeclaresOwn visits target := by
  refine steps_induction (motive := fun _ t => target ∈ t.emitted →
    target ∈ s.emitted ∨ s.DeclaresOwn visits target) .inl ?_ hmem
  intro before v hv ih hmem
  have houtcome : Outcome v.session v.place v.decl v.after := outcome_visit _ _ _
  rw [(houtcome.bindsNext (h v hv)).emitted] at hmem
  rcases List.mem_append.1 hmem with hmem | hmem
  · -- the type of this very declaration
    rw [newType?, Option.mem_toList] at hmem
    obtain ⟨own, hown, rfl⟩ := Option.map_eq_some_iff.1 hmem
    obtain ⟨found, hdeclared, hnew⟩ := Option.bind_eq_some_iff.1 hown
    split at hnew
    · next hcond =>
      cases hnew
      simp only [Bool.and_eq_true] at hcond
      rw [declaredType?_congr (rules_of_mem_steps hv)] at hdeclared
      exact .inr ⟨_, mem_of_mem_steps hv, hcond.1.2, hdeclared⟩
    · cases hnew
  · exact ih hmem

theorem typesOf_visitAll_of_ne {header : String} {visits : List (Place × Decl)}
    (h : ∀ v ∈ visits, v.1.file ≠ header) :
    (s.visitAll visits).package.typesOf header = s.package.typesOf header := by
  refine steps_induction
    (motive := fun _ t => t.package.typesOf header = s.package.typesOf header) rfl ?_
  intro before v hv ih
  obtain ⟨added, hadded⟩ := (outcome_visit v.session v.place v.decl).package
  have hne : header ≠ v.place.file := Ne.symm (h _ (mem_of_mem_steps hv))
  show (v.session.visit v.place v.decl).package.typesOf header = _
  rw [hadded, Package.typesOf_pushAll, if_neg hne]
  exact ih

/-- The own types that were declared so far are bound for a header, and no other of its own types
counts as bound. -/
structure BindsOwn (s t : Session) (header : String) (visits : List (Place × Decl))
    (own : List (String × Option String)) : Prop where
  rules : t.rules = s.rules
  labels : t.labels header = s.labels header ++ own
  emitted : ∀ target, s.DeclaresOwn visits target →
    (target ∈ t.emitted ↔ target ∈ own.map Prod.fst)

variable {visits : List (Place × Decl)} {own : List (String × Option String)}

/-- What a visit binds is what its declaration adds to the own types. -/
theorem BindsOwn.addOwnType_eq {header : String} (h : s.BindsOwn t header visits own)
    {v : Place × Decl} (hv : v ∈ visits) :
    s.addOwnType own v = own ++ (t.newType? v.1 v.2).toList := by
  have hdeclared := declaredType?_congr h.rules v.2
  unfold addOwnType
  cases htarget : s.declaredType? v.2 with
  | none =>
    rw [newType?_of_not_declared (hdeclared.trans htarget)]
    exact (List.append_nil _).symm
  | some target =>
    rw [newType?_of_declared (hdeclared.trans htarget)]
    by_cases hholds : v.1.holds v.2
    · have hcontains : t.emitted.contains target = (own.map Prod.fst).contains target := by
        rw [Bool.eq_iff_iff, List.contains_iff_mem, List.contains_iff_mem]
        exact h.emitted target ⟨v, hv, hholds, htarget⟩
      rw [hcontains]
      dsimp only
      split
      · rfl
      · exact (List.append_nil _).symm
    · -- a declaration of another header adds nothing
      rw [eq_false_of_ne_true hholds]
      simp

/-- **A visit of the header keeps the two facts.** -/
theorem BindsOwn.visit (h : s.BindsOwn t p.file visits own) (hv : (p, d) ∈ visits)
    (hconverts : Step.ConvertsType ⟨t, p, d⟩) :
    s.BindsOwn (t.visit p d) p.file visits (s.addOwnType own (p, d)) := by
  have hbinds := (outcome_visit t p d).bindsNext hconverts
  rw [h.addOwnType_eq hv]
  refine ⟨(rules_visit t p d).trans h.rules, ?_, ?_⟩
  · rw [hbinds.labels, h.labels, List.append_assoc]
  · intro target hown
    rw [hbinds.emitted, List.map_append, List.mem_append, List.mem_append, h.emitted target hown,
      or_comm]
    cases t.newType? p d <;> simp

/-- **A walk binds the own types of its header**, if none of them counts as bound before. -/
theorem labels_visitAll {header : String} (h : s.ConvertsTypes visits)
    (hfile : ∀ v ∈ visits, v.1.file = header)
    (hfirst : ∀ target, s.DeclaresOwn visits target → target ∉ s.emitted) :
    (s.visitAll visits).labels header = s.labels header ++ s.ownTypes visits := by
  -- by induction on the visits that are left, from any session that has bound the types so far
  have hrest : ∀ (rest : List (Place × Decl)) (t : Session) (own : List (String × Option String)),
      t.ConvertsTypes rest → (∀ v ∈ rest, v ∈ visits) → s.BindsOwn t header visits own →
      s.BindsOwn (t.visitAll rest) header visits (rest.foldl s.addOwnType own) := by
    intro rest
    induction rest with
    | nil => exact fun t own _ _ hbinds => hbinds
    | cons v rest ih =>
      obtain ⟨p, d⟩ := v
      intro t own hconverts hmem hbinds
      have hv : (p, d) ∈ visits := hmem _ List.mem_cons_self
      obtain rfl : p.file = header := hfile _ hv
      apply ih
      · exact fun w hw => hconverts w (List.mem_cons_of_mem _ hw)
      · exact fun w hw => hmem w (List.mem_cons_of_mem _ hw)
      · exact hbinds.visit hv (hconverts _ List.mem_cons_self)
  have hstart : s.BindsOwn s header visits [] := by
    refine ⟨rfl, (List.append_nil _).symm, fun target hown => ?_⟩
    exact ⟨fun hmem => absurd hmem (hfirst target hown), fun hmem => nomatch hmem⟩
  exact (hrest visits s [] h (fun _ hv => hv) hstart).labels

end Session

end HeaderBindings
