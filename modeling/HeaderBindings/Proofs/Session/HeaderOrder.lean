import HeaderBindings.Proofs.Session.OwnTypes

/-!
# The order of headers does not matter for types

Headers include one another, so that the same type is declared in several of them, and which one
registers it depends on their order. If the types of each header can be converted without the other
headers, and declarations with the same target name are the same, this makes no difference: every
order registers the same types, and binds the same types for each header (`types_of_perm`).

Neither hypothesis can be spared. A declaration that refers to a type which is not registered yet
cannot be converted, so a header that leans on the headers before it gives one result in one order
and another in another order. And where two declarations share a target name but not their content,
the first one is registered, which is again a question of order.

The proof goes through the labels of types, that is, their names with their documentation. A run
registers the converted types, and what they convert to does not depend on the order, by `OwnTypes`;
a header binds exactly the types that it declares itself, so the labels under a header are those of
its own declarations (`labels_flatMap`). A binding is then read back from its label and from the
registry.
-/

namespace HeaderBindings.Session

variable {s : Session} {units : List HeaderUnit} {visits : List (Place × Decl)}

/-- Declarations with the same target name are the same: in kind, name and content, in their file
and in their documentation. -/
def DeclaresAlike (s : Session) (visits : List (Place × Decl)) : Prop :=
  ∀ v ∈ visits, ∀ w ∈ visits, ∀ target,
    s.declaredType? v.2 = some target → s.declaredType? w.2 = some target →
    v.2.kind = w.2.kind ∧ v.2.file? = w.2.file? ∧ v.2.doc = w.2.doc

/-! ### Headers one after the other

A walk alone starts from an empty registry and a walk in a run does not. More registered types can
only help a conversion, and by stability they do not change its result.
-/

/-- Visits convert their types in a row if the second ones do behind the first ones. -/
theorem convertsTypes_append {first second : List (Place × Decl)} :
    s.ConvertsTypes (first ++ second) ↔
      s.ConvertsTypes first ∧ (s.visitAll first).ConvertsTypes second := by
  unfold ConvertsTypes
  rw [steps_append, List.forall_mem_append]

/-- **Types that can be converted in each header alone can be converted in all of them**, one after
the other. -/
theorem convertsTypes_flatMap (h : ∀ u ∈ units, s.ConvertsTypes u.visits) :
    s.ConvertsTypes (units.flatMap HeaderUnit.visits) := by
  -- by induction on the headers that are left, from any session that knows at least the same names
  have hmore : ∀ t : Session, t.rules = s.rules → (∀ n ∈ s.types, n ∈ t.types) →
      t.ConvertsTypes (units.flatMap HeaderUnit.visits) := by
    induction units with
    | nil => exact fun t _ _ v hv => nomatch hv
    | cons u rest ih =>
      intro t hrules hmore
      rw [List.flatMap_cons, convertsTypes_append]
      constructor
      · exact (h u List.mem_cons_self).of_more hrules hmore
      · apply ih fun w hw => h w (List.mem_cons_of_mem u hw)
        · exact (rules_visitAll t u.visits).trans hrules
        · exact fun n hn => mem_types_visitAll (hmore n hn) u.visits
  exact hmore s rfl fun _ hn => hn

/-- A visit of some headers is one of a header that is not at a path which none of them has. -/
theorem file_ne_of_mem_flatMap {path : String} (h : path ∉ units.map HeaderUnit.path) :
    ∀ v ∈ units.flatMap HeaderUnit.visits, v.1.file ≠ path := by
  rintro v hv rfl
  obtain ⟨u, hu, hvisit⟩ := List.mem_flatMap.1 hv
  have hpath : v.1.file = u.path := Place.file_of_mem_visits ⟨u.path, []⟩ u.decls v hvisit
  exact h (List.mem_map.2 ⟨u, hu, hpath.symm⟩)

/-- Which types a header declares itself is a matter of the prefix rules. -/
theorem ownTypes_congr {t : Session} (h : t.rules = s.rules) (visits : List (Place × Decl)) :
    t.ownTypes visits = s.ownTypes visits := by
  have hadd : t.addOwnType = s.addOwnType := by
    funext own v
    unfold addOwnType
    rw [declaredType?_congr h]
  unfold ownTypes
  rw [hadd]

/-- What a header declares itself, no header of another path declares as its own. -/
theorem DeclaresAlike.not_declaresOwn {u : HeaderUnit}
    (h : s.DeclaresAlike (units.flatMap HeaderUnit.visits ++ u.visits))
    (hpath : u.path ∉ units.map HeaderUnit.path) {target : String}
    (hown : s.DeclaresOwn u.visits target) :
    ¬ s.DeclaresOwn (units.flatMap HeaderUnit.visits) target := by
  rintro ⟨v, hv, hholds, htarget⟩
  obtain ⟨w, hw, hholds', htarget'⟩ := hown
  obtain ⟨-, hfile, -⟩ := h v (List.mem_append_left _ hv) w (List.mem_append_right _ hw) target
    htarget htarget'
  have hvfile : v.2.file? = some v.1.file := of_decide_eq_true hholds
  have hwfile : w.2.file? = some w.1.file := of_decide_eq_true hholds'
  have hwpath : w.1.file = u.path := Place.file_of_mem_visits ⟨u.path, []⟩ u.decls w hw
  rw [hvfile, hwfile, hwpath] at hfile
  exact file_ne_of_mem_flatMap hpath v hv (Option.some.inj hfile)

/-- **A run binds the own types of each header**, whatever other headers come before or behind. -/
theorem labels_flatMap {options : SessionOptions} {u : HeaderUnit} (hu : u ∈ units)
    (hpaths : (units.map HeaderUnit.path).Nodup)
    (hconverts : (start options).ConvertsTypes (units.flatMap HeaderUnit.visits))
    (halike : (start options).DeclaresAlike (units.flatMap HeaderUnit.visits)) :
    ((start options).visitAll (units.flatMap HeaderUnit.visits)).labels u.path =
      (start options).ownTypes u.visits := by
  obtain ⟨before, after, rfl⟩ := List.append_of_mem hu
  rw [List.map_append, List.map_cons, List.nodup_append] at hpaths
  obtain ⟨-, hafter, hdisjoint⟩ := hpaths
  have hnotBefore : u.path ∉ before.map HeaderUnit.path :=
    fun hmem => hdisjoint u.path hmem u.path List.mem_cons_self rfl
  have hnotAfter : u.path ∉ after.map HeaderUnit.path := (List.nodup_cons.1 hafter).1
  rw [List.flatMap_append, List.flatMap_cons] at hconverts halike ⊢
  rw [convertsTypes_append, convertsTypes_append] at hconverts
  obtain ⟨hbefore, hown, -⟩ := hconverts
  rw [visitAll_append, visitAll_append]
  have hrules := rules_visitAll (start options) (before.flatMap HeaderUnit.visits)
  have hfirst : ∀ target,
      ((start options).visitAll (before.flatMap HeaderUnit.visits)).DeclaresOwn u.visits target →
      target ∉ ((start options).visitAll (before.flatMap HeaderUnit.visits)).emitted := by
    rintro target ⟨v, hv, hholds, htarget⟩ hmem
    rw [declaredType?_congr hrules] at htarget
    rcases declaresOwn_of_mem_emitted hbefore hmem with hmem | hearlier
    · cases hmem
    · have hpart : (start options).DeclaresAlike
          (before.flatMap HeaderUnit.visits ++ u.visits) := by
        rw [← List.append_assoc] at halike
        exact fun v hv w hw =>
          halike v (List.mem_append_left _ hv) w (List.mem_append_left _ hw)
      exact hpart.not_declaresOwn hnotBefore ⟨v, hv, hholds, htarget⟩ hearlier
  have hwalk := labels_visitAll hown (Place.file_of_mem_visits ⟨u.path, []⟩ u.decls) hfirst
  have hstart : ((start options).visitAll (before.flatMap HeaderUnit.visits)).labels u.path =
      [] := by
    unfold labels
    rw [typesOf_visitAll_of_ne (file_ne_of_mem_flatMap hnotBefore)]
    rfl
  rw [hstart, List.nil_append, ownTypes_congr hrules] at hwalk
  rw [← hwalk]
  unfold labels
  rw [typesOf_visitAll_of_ne (file_ne_of_mem_flatMap hnotAfter)]

/-! ### Bindings from labels

A type binding repeats what the registry holds under its name and adds the documentation. Two runs
with the same registry and the same labels for a header therefore have the same bindings for it.
-/

/-- The binding of a registered type with a label. -/
def asRegistered (types : Registry) (label : String × Option String) : Option TypeBinding :=
  (types.get? label.1).map fun declared =>
    ⟨label.1, declared.kind, declared.underlying, label.2⟩

/-- Bindings that are as registered are determined by their labels. -/
theorem filterMap_asRegistered {bindings : List TypeBinding}
    (h : ∀ b ∈ bindings, s.Registers b) :
    (bindings.map TypeBinding.label).filterMap (asRegistered s.types) = bindings := by
  induction bindings with
  | nil => rfl
  | cons b rest ih =>
    have hfirst : asRegistered s.types b.label = some b := by
      have hregistered : s.types.get? b.name = some ⟨b.kind, b.underlying⟩ :=
        h b List.mem_cons_self
      unfold asRegistered TypeBinding.label
      rw [hregistered]
      rfl
    rw [List.map_cons, List.filterMap_cons_some hfirst,
      ih fun other hother => h other (List.mem_cons_of_mem b hother)]

theorem typesOf_visitAll (options : SessionOptions) (visits : List (Place × Decl))
    (header : String) :
    ((start options).visitAll visits).package.typesOf header =
      (((start options).visitAll visits).labels header).filterMap
        (asRegistered ((start options).visitAll visits).types) := by
  have hstart : (start options).BindsAsRegistered := fun b hb => nomatch hb
  have hbinds : ((start options).visitAll visits).BindsAsRegistered :=
    visitAll_preserves (motive := BindsAsRegistered) (fun _ p d h => h.visit p d) hstart visits
  exact (filterMap_asRegistered fun b hb =>
    hbinds b (Package.mem_types_of_mem_typesOf hb)).symm

/-! ### Any order

A permutation of headers is a permutation of their visits, in which each header stays together.
Registered types are compared by name, since the registry keeps them in the order of registration,
which does change.
-/

/-- **Every order of headers registers the same types and binds the same types for each header.**

Let the paths of the headers be different, let each header convert all its types when it is walked
alone, those that it includes too, and let any two declarations with the same target name be the
same. Then a run over the headers in another order registers the same type under each name, and the
types that are bound for a header are the same, with their documentation and in the same order. -/
theorem types_of_perm {options : SessionOptions} {units units' : List HeaderUnit}
    (hperm : units'.Perm units) (hpaths : (units.map HeaderUnit.path).Nodup)
    (hconverts : ∀ u ∈ units, (start options).ConvertsTypes u.visits)
    (halike : (start options).DeclaresAlike (units.flatMap HeaderUnit.visits)) :
    (∀ name, ((start options).processAll units').types.get? name =
      ((start options).processAll units).types.get? name) ∧
    ∀ header, ((start options).processAll units').package.typesOf header =
      ((start options).processAll units).package.typesOf header := by
  have hvisits : (units'.flatMap HeaderUnit.visits).Perm (units.flatMap HeaderUnit.visits) :=
    hperm.flatMap_right _
  have hpaths' : (units'.map HeaderUnit.path).Nodup := (hperm.map _).nodup_iff.2 hpaths
  have hall := convertsTypes_flatMap hconverts
  have hall' : (start options).ConvertsTypes (units'.flatMap HeaderUnit.visits) :=
    convertsTypes_flatMap fun u hu => hconverts u (hperm.mem_iff.1 hu)
  have halike' : (start options).DeclaresAlike (units'.flatMap HeaderUnit.visits) :=
    fun v hv w hw => halike v (hvisits.mem_iff.1 hv) w (hvisits.mem_iff.1 hw)
  rw [processAll_eq_visitAll, processAll_eq_visitAll]
  have hagree : ((start options).visitAll (units'.flatMap HeaderUnit.visits)).types.Agree
      ((start options).visitAll (units.flatMap HeaderUnit.visits)).types :=
    agree_visitAll fun v hv w hw target htarget htarget' =>
      (halike v (hvisits.mem_iff.1 hv) w hw target htarget htarget').1
  have htypes := hagree.get?_eq fun name => by
    rw [mem_types_visitAll_iff hall, mem_types_visitAll_iff hall']
    simp only [hvisits.mem_iff]
  refine ⟨htypes, fun header => ?_⟩
  have hlabels : ((start options).visitAll (units'.flatMap HeaderUnit.visits)).labels header =
      ((start options).visitAll (units.flatMap HeaderUnit.visits)).labels header := by
    by_cases hheader : header ∈ units.map HeaderUnit.path
    · obtain ⟨u, hu, rfl⟩ := List.mem_map.1 hheader
      rw [labels_flatMap hu hpaths hall halike,
        labels_flatMap (hperm.mem_iff.2 hu) hpaths' hall' halike']
    · -- nothing is bound for a path without a header
      have hheader' : header ∉ units'.map HeaderUnit.path :=
        fun hmem => hheader ((hperm.map _).mem_iff.1 hmem)
      unfold labels
      rw [typesOf_visitAll_of_ne (file_ne_of_mem_flatMap hheader),
        typesOf_visitAll_of_ne (file_ne_of_mem_flatMap hheader')]
  have hregistered : asRegistered
      ((start options).visitAll (units'.flatMap HeaderUnit.visits)).types =
        asRegistered ((start options).visitAll (units.flatMap HeaderUnit.visits)).types := by
    funext label
    unfold asRegistered
    rw [htypes]
  rw [typesOf_visitAll, typesOf_visitAll, hlabels, hregistered]

/-- A node of a chain, declared in the header `node.h`. -/
def chainNode : Decl where
  kind := .record "node" .struct
    [⟨some "value", .builtin .int⟩, ⟨some "next", .pointer (.named { name := "node" })⟩]
  location := { file := some "node.h" }
  doc := some "A node."

/-- A union of the header `slot.h`, of which only the larger field is kept: the node. -/
def chainSlot : Decl where
  kind := .record "slot" .union
    [⟨some "node", .named { name := "node" }⟩, ⟨some "number", .builtin .int⟩]
  location := { file := some "slot.h" }

/-- The header `node.h`, and the header `slot.h` that includes it. -/
def chainUnits : List HeaderUnit :=
  [⟨"slot.h", [chainNode, chainSlot]⟩, ⟨"node.h", [chainNode]⟩]

theorem types_of_perm_chain :
    chainUnits.reverse.Perm chainUnits ∧ (chainUnits.map HeaderUnit.path).Nodup ∧
    (∀ u ∈ chainUnits, (start {}).ConvertsTypes u.visits) ∧
    (start {}).DeclaresAlike (chainUnits.flatMap HeaderUnit.visits) ∧
    ((start {}).processAll chainUnits.reverse).types.get? "Slot" =
      some ⟨.struct, .struct [⟨some "node", .named "Node"⟩]⟩ ∧
    (((start {}).processAll chainUnits.reverse).package.typesOf "node.h").map TypeBinding.label =
      [("Node", some "A node.")] := by
  have hperm : chainUnits.reverse.Perm chainUnits := List.reverse_perm chainUnits
  have hpaths : (chainUnits.map HeaderUnit.path).Nodup := by decide +kernel
  have hconverts : ∀ u ∈ chainUnits, (start {}).ConvertsTypes u.visits := by decide +kernel
  have halike : (start {}).DeclaresAlike (chainUnits.flatMap HeaderUnit.visits) := by
    have hnode : (start {}).declaredType? chainNode = some "Node" := by decide +kernel
    have hslot : (start {}).declaredType? chainSlot = some "Slot" := by decide +kernel
    have hdecl : ∀ v ∈ chainUnits.flatMap HeaderUnit.visits, v.2 = chainNode ∨ v.2 = chainSlot := by
      intro v hv
      rcases hv with _ | ⟨_, _ | ⟨_, _ | ⟨_, hv⟩⟩⟩
      · exact .inl rfl
      · exact .inr rfl
      · exact .inl rfl
      · cases hv
    intro v hv w hw target htarget htarget'
    rcases hdecl v hv with h | h <;> rcases hdecl w hw with h' | h'
    all_goals rw [h] at htarget; rw [h'] at htarget'; rw [h, h']
    · exact ⟨rfl, rfl, rfl⟩
    · exact absurd ((hnode.symm.trans htarget).trans (htarget'.symm.trans hslot)) (by decide)
    · exact absurd ((hslot.symm.trans htarget).trans (htarget'.symm.trans hnode)) (by decide)
    · exact ⟨rfl, rfl, rfl⟩
  obtain ⟨htypes, hbound⟩ := types_of_perm hperm hpaths hconverts halike
  refine ⟨hperm, hpaths, hconverts, halike, ?_, ?_⟩
  · rw [htypes]
    rfl
  · rw [hbound]
    decide +kernel

end HeaderBindings.Session
