import HeaderBindings.Proofs.Session.DeclaredTypes
import HeaderBindings.Proofs.Session.Visits

/-!
# What a run only adds to

A visit adds bindings behind those of its own header, and types to those that are registered; the
prefix rules stay as they are. So a binding that a visit adds is among those of the header from then
on, in its place, and a registered type stays registered.

Each of these facts comes in two steps. What a single visit does is read off from the ways in which
a visit may end (`Outcome`), of which there is one per branch. What a run does follows by induction
on the visits, which is carried out once, in `visitAll_preserves`.

* Bindings: a visit pushes a list of bindings into the file of its header (`Outcome.package`), and
  so the bindings of any header after a run start with those before it (`bound_visitAll`). If the
  visit is not one of a function, none of the bindings is of a function, either
  (`Outcome.package_of_not_function`).
* Types: a visit registers at most one type (`Outcome.types_eq`) and takes none away
  (`Outcome.mem_types`, `mem_types_visitAll`).
* Settings: a visit changes neither the prefix rules nor the decoration of symbols, so that in the
  middle of a run names are still made by the rules of the start (`rules_of_mem_steps`).
-/

namespace HeaderBindings

namespace Package

/-! ### Bindings of one header

A package keeps the bindings of a header in a file of its own. What is pushed goes to the end of one
file, and is in no other one.
-/

/-- The bindings of a header, in order. -/
def bound (p : Package) (header : String) : List Binding := (p.byHeader.get? header).getD []

/-- Adds some bindings at the end of those of a header. -/
def pushAll (p : Package) (header : String) (added : List Binding) : Package :=
  added.foldl (·.push header ·) p

theorem bound_push (p : Package) (header other : String) (b : Binding) :
    (p.push header b).bound other =
      if other = header then p.bound other ++ [b] else p.bound other := by
  unfold bound push
  rw [OrderedMap.get?_insert]
  split
  · next heq =>
    rw [heq]
    rfl
  · rfl

/-- **Added bindings come last in their own header, and no other header changes.** -/
theorem bound_pushAll (p : Package) (header other : String) (added : List Binding) :
    (p.pushAll header added).bound other =
      if other = header then p.bound other ++ added else p.bound other := by
  unfold pushAll
  induction added generalizing p with
  | nil => simp
  | cons b rest ih =>
    rw [List.foldl_cons, ih, bound_push]
    by_cases heq : other = header
    · simp only [heq, if_true, List.append_assoc, List.singleton_append]
    · simp only [heq, if_false]

theorem pushAll_pushAll (p : Package) (header : String) (first second : List Binding) :
    (p.pushAll header first).pushAll header second = p.pushAll header (first ++ second) :=
  List.foldl_append.symm

/-- Up to their order, the bindings of a package are those that were pushed. -/
theorem bindings_push_perm (p : Package) (header : String) (b : Binding) :
    (p.push header b).bindings.Perm (b :: p.bindings) := by
  have hbindings : ∀ q : Package, q.bindings = q.byHeader.entries.flatMap Prod.snd := by
    intro q
    rw [bindings, files, List.flatMap_map]
  have hput : ∀ entries : List (String × List Binding),
      (OrderedMap.put header ((entries.lookup header).getD [] ++ [b]) entries).flatMap Prod.snd
        |>.Perm (b :: entries.flatMap Prod.snd) := by
    intro entries
    induction entries with
    | nil => exact .refl _
    | cons e rest ih =>
      obtain ⟨key, bound⟩ := e
      rw [OrderedMap.put, OrderedMap.lookup_cons_ite]
      by_cases heq : key = header
      · rw [if_pos heq, if_pos heq.symm, List.flatMap_cons, List.flatMap_cons, List.append_assoc]
        exact List.perm_middle
      · rw [if_neg heq, if_neg (Ne.symm heq), List.flatMap_cons, List.flatMap_cons]
        exact (ih.append_left bound).trans List.perm_middle
  rw [hbindings, hbindings]
  exact hput p.byHeader.entries

theorem bindings_pushAll_perm (p : Package) (header : String) (added : List Binding) :
    (p.pushAll header added).bindings.Perm (added ++ p.bindings) := by
  unfold pushAll
  induction added generalizing p with
  | nil => exact .refl _
  | cons b rest ih =>
    exact (ih (p.push header b)).trans
      (((p.bindings_push_perm header b).append_left rest).trans List.perm_middle)

end Package

namespace Session

variable {s : Session} {p : Place} {d : Decl}

/-! ### Bindings

A type is pushed by at most one of the functions that a visit calls, and the enumerators of an
enumeration are pushed behind it. So a visit pushes a list, which is empty where nothing is bound.
-/

/-- A type is bound once at most. -/
theorem package_emitType (s : Session) (p : Place) (d : Decl) (target : String) :
    ∃ added : List Binding, (added = [] ∨ ∃ b, added = [.type b]) ∧
      (s.emitType p d target).package = s.package.pushAll p.file added := by
  rcases emitType_cases s p d target with h | ⟨declared, -, -, -, -, h⟩
  · exact ⟨[], .inl rfl, congrArg Session.package h⟩
  · exact ⟨_, .inr ⟨_, rfl⟩, congrArg Session.package h⟩

/-- An enumeration is bound as a type only if it has a name. -/
theorem package_declareEnum (s : Session) (p : Place) (d : Decl) (name : Option String) :
    ∃ added : List Binding, (added = [] ∨ ∃ b, added = [.type b]) ∧
      (s.declareEnum p d name).package = s.package.pushAll p.file added := by
  rcases declareEnum_cases s p d name with h | ⟨target, h⟩
  · rw [h]
    exact ⟨[], .inl rfl, rfl⟩
  · rw [h]
    exact package_emitType { s with types := _ } p d _

theorem package_bindFunction (s : Session) (p : Place) (d : Decl) (f : FunctionDecl)
    (signature : Signature TargetType) :
    ∃ added, (s.bindFunction p d f signature).package = s.package.pushAll p.file added := by
  unfold bindFunction
  dsimp only
  split
  · exact ⟨[_], rfl⟩
  · exact ⟨[], rfl⟩

/-- Enumerators are bound in the order of their enumeration, or not at all. -/
theorem package_bindEnumerators (s : Session) (p : Place) (d : Decl) (name : Option String)
    (items : List (Enumerator × Int64)) :
    (s.bindEnumerators p d name items).package = s.package.pushAll p.file
      (if p.emits && p.holds d then
        items.map fun e => .const ⟨s.enumeratorName name e.1.name, e.2, Catalog.enumType⟩
      else []) := by
  unfold bindEnumerators
  split <;> rfl

theorem package_bindEnumerators_consts (s : Session) (p : Place) (d : Decl) (name : Option String)
    (items : List (Enumerator × Int64)) :
    ∃ consts : List ConstBinding,
      (s.bindEnumerators p d name items).package =
        s.package.pushAll p.file (consts.map .const) := by
  rw [package_bindEnumerators]
  split
  · exact ⟨items.map fun e => ⟨s.enumeratorName name e.1.name, e.2, Catalog.enumType⟩, by
      rw [List.map_map]
      rfl⟩
  · exact ⟨[], rfl⟩

/-- **A visit of anything but a function adds types and enumerators**, behind the bindings of its
header. -/
theorem Outcome.package_of_not_function {t : Session} (h : Outcome s p d t)
    (hkind : ∀ f, d.kind ≠ .function f) :
    ∃ added : List Binding, (∀ b ∈ added, b.function? = none) ∧
      t.package = s.package.pushAll p.file added := by
  have htype : ∀ added : List Binding, (added = [] ∨ ∃ b, added = [.type b]) →
      ∀ b ∈ added, b.function? = none := by
    rintro added (rfl | ⟨b, rfl⟩) other hother
    · cases hother
    · rw [List.mem_singleton.1 hother]
      rfl
  cases h with
  | passed => exact ⟨[], fun b hb => (nomatch hb), rfl⟩
  | failed =>
    rw [skip_eq]
    exact ⟨[], fun b hb => (nomatch hb), rfl⟩
  | function hfunction => exact absurd hfunction (hkind _)
  | takenRecord | takenTypedef =>
    obtain ⟨added, hadded, h⟩ := package_emitType s p d _
    exact ⟨added, htype added hadded, h⟩
  | record | typedef =>
    obtain ⟨added, hadded, h⟩ := package_emitType { s with types := _ } p d _
    exact ⟨added, htype added hadded, h⟩
  | @enum name items values =>
    obtain ⟨first, hfirst, h⟩ := package_declareEnum s p d name
    obtain ⟨consts, hconsts⟩ :=
      package_bindEnumerators_consts (s.declareEnum p d name) p d name (items.zip values)
    rw [hconsts, h, Package.pushAll_pushAll]
    refine ⟨_, ?_, rfl⟩
    intro b hb
    rcases List.mem_append.1 hb with hb | hb
    · exact htype first hfirst b hb
    · obtain ⟨c, -, rfl⟩ := List.mem_map.1 hb
      rfl

/-- **A visit adds bindings behind those of its header.** -/
theorem Outcome.package {t : Session} (h : Outcome s p d t) :
    ∃ added, t.package = s.package.pushAll p.file added := by
  by_cases hkind : ∃ f, d.kind = .function f
  · obtain ⟨f, hkind⟩ := hkind
    rcases h.of_function hkind with ⟨skipped, rfl⟩ | ⟨signature, -, -, rfl⟩
    · exact ⟨[], rfl⟩
    · exact package_bindFunction s p d f signature
  · obtain ⟨added, -, h⟩ := h.package_of_not_function fun f hf => hkind ⟨f, hf⟩
    exact ⟨added, h⟩

/-- **The bindings of a header stay, and others come behind them.** -/
theorem bound_visitAll (s : Session) (header : String) (visits : List (Place × Decl)) :
    s.package.bound header <+: (s.visitAll visits).package.bound header := by
  refine visitAll_preserves (motive := fun t => s.package.bound header <+: t.package.bound header)
    ?_ List.prefix_rfl visits
  intro t p d h
  obtain ⟨added, hadded⟩ := (outcome_visit t p d).package
  rw [hadded, Package.bound_pushAll]
  split
  · exact h.trans (List.prefix_append _ _)
  · exact h

/-! ### Types, and what stays as it is -/

/-- **A visit registers one type at most**, and takes none away. -/
theorem Outcome.types_eq {t : Session} (h : Outcome s p d t) :
    t.types = s.types ∨ ∃ target type, t.types = s.types.register target type := by
  rcases h.registration with heq | ⟨target, type, -, -, -, heq⟩
  · exact .inl heq
  · exact .inr ⟨target, type, heq⟩

/-- **A visit forgets no type.** -/
theorem Outcome.mem_types {t : Session} (houtcome : Outcome s p d t) {name : String}
    (h : name ∈ s.types) : name ∈ t.types := by
  rcases houtcome.types_eq with heq | ⟨target, type, heq⟩
  · rw [heq]
    exact h
  · rw [heq]
    exact Registry.mem_register.2 (.inr h)

theorem mem_types_visitAll {name : String} (h : name ∈ s.types) (visits : List (Place × Decl)) :
    name ∈ (s.visitAll visits).types :=
  visitAll_preserves (motive := fun t => name ∈ t.types)
    (fun t p d ht => (outcome_visit t p d).mem_types ht) h visits

theorem rules_visit (s : Session) (p : Place) (d : Decl) : (s.visit p d).rules = s.rules :=
  (outcome_visit s p d).settings_eq.1

theorem rules_visitAll (s : Session) (visits : List (Place × Decl)) :
    (s.visitAll visits).rules = s.rules :=
  visitAll_preserves (motive := fun t => t.rules = s.rules)
    (fun t p d ht => (rules_visit t p d).trans ht) rfl visits

theorem rules_of_mem_steps {visits : List (Place × Decl)} {v : Step} (h : v ∈ s.steps visits) :
    v.session.rules = s.rules := by
  obtain ⟨first, second, -, hsession⟩ := exists_visitAll_of_mem_steps h
  rw [hsession]
  exact rules_visitAll s first

theorem decoration_visit (s : Session) (p : Place) (d : Decl) :
    (s.visit p d).decoration = s.decoration :=
  (outcome_visit s p d).settings_eq.2.2

theorem decoration_visitAll (s : Session) (visits : List (Place × Decl)) :
    (s.visitAll visits).decoration = s.decoration :=
  visitAll_preserves (motive := fun t => t.decoration = s.decoration)
    (fun t p d ht => (decoration_visit t p d).trans ht) rfl visits

end Session

end HeaderBindings
