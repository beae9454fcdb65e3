import HeaderBindings.Proofs.Conversion.Fields
import HeaderBindings.Proofs.Session.Growth

/-!
# Structs that point to each other

A header of structs is lowered to one declaration for every struct, where the struct is first
declared, and with the fields of its definition. So a struct to which a field points has to be
declared no later than the struct with the field is, and not just before the definition that holds
the field. Then all structs are registered with their fields, and otherwise not
(`structs_registered_iff`).

## Two conditions on a header

* `CursorTree.DeclaresBeforeUse` is what the language asks for: in front of a definition, every
  struct to which its fields point has been declared.
* `CursorTree.DeclaresBeforeMention` is what registration asks for: in front of the first
  declaration of a struct, every struct to which the fields of its definition point has been
  declared.

The two differ as soon as a struct is declared first and defined later, with other structs in
between. `queueTree_not_registered` is such a header, of two structs that point to each other.

## The proof of the equivalence

The headers that are treated have nothing but structs at their top (`StructHeader`), and their
declarations are known (`structDecls`). The run over them is followed struct by struct.

* A struct whose fields point to registered structs is registered with all its fields
  (`visit_structDecl_of_knows`). One with a field that points to a struct that is not registered is
  only reported (`visit_structDecl_of_not_knows`).
* If the condition holds, the structs that are declared so far are registered, and nothing else is
  (`Declares`). Visits keep that up, whether the next cursor declares a struct for the first time
  (`Declares.visit`) or once more (`Declares.again`), and so all structs are registered in the end
  (`Declares.walk`).
* If the condition fails, some struct is first declared in front of another one to which its fields
  point. Up to there the other struct is not registered, because a struct is registered only where
  it is first declared (`mem_types_walk_structDecls`). So the struct is reported there, and it is
  not declared again (`not_mem_types_walk`).
-/

namespace HeaderBindings

open StructHeader (structDecl structDecls)

namespace CursorTree

/-- The fields of a struct point to structs that are among some declared ones. -/
def PointsTo (t : CursorTree) (definition : Cursor) (declared : List Cursor) : Prop :=
  ∀ f ∈ definition.fields, ∀ r, t.fieldKind? f.type = some (.struct r) →
    r.usr ∈ declared.map Cursor.usr

/-- Every struct to which a field points is declared before the definition that holds the field, or
is the struct that is defined. -/
def DeclaresBeforeUse (t : CursorTree) : Prop :=
  ∀ earlier d later, t.root.children = earlier ++ d :: later → d.isDefinition →
    t.PointsTo d (earlier ++ [d])

/-- Every struct to which a field points is declared before the first declaration of the struct with
the field, or is that struct. -/
def DeclaresBeforeMention (t : CursorTree) : Prop :=
  ∀ earlier c later, t.root.children = earlier ++ c :: later → c.usr ∉ earlier.map Cursor.usr →
    t.PointsTo (t.definition c) (earlier ++ [c])

end CursorTree

namespace Session

/-- A struct is registered with one field for each field of its definition, in order; one without
fields is registered with a placeholder. -/
def RegistersStruct (s : Session) (t : CursorTree) (c : Cursor) : Prop :=
  ∃ slots, List.Forall₂ (t.FieldAs s.rules) (t.definition c).fields slots ∧
    s.types.get? (s.rules.typeName c.spelling) =
      some ⟨.struct, .struct (if slots.isEmpty then Converter.placeholder else slots)⟩

variable {s : Session} {p : Place} {t : CursorTree} {rules : PrefixRules}

/-! ### One struct

The members of a struct that are not fields come along as unknown declarations. They are visited,
but nothing comes of them.
-/

/-- Nothing comes of the members of a struct that are not fields. -/
theorem walk_unknownMembers (p : Place) (s : Session) (ms : List Cursor) :
    walk p s (Outline.toDecls t (StructHeader.unknownMembers ms)) = s := by
  have hunknown : ∀ o ∈ StructHeader.unknownMembers ms, ∃ m, o = .unknown m := by
    intro o ho
    obtain ⟨m, -, hm⟩ := List.mem_flatMap.1 ho
    unfold StructHeader.memberOutlines at hm
    split at hm
    · cases hm
    · exact ⟨m, List.mem_singleton.1 hm⟩
  generalize StructHeader.unknownMembers ms = outlines at hunknown
  induction outlines with
  | nil => rfl
  | cons o rest ih =>
    obtain ⟨m, rfl⟩ := hunknown o List.mem_cons_self
    exact ih fun o' ho' => hunknown o' (List.mem_cons_of_mem _ ho')

/-- A struct is visited, and nothing that it holds. -/
theorem walk_structDecl (p : Place) (s : Session) (c : Cursor) :
    walk p s [structDecl t c] = s.visit p (structDecl t c) :=
  walk_unknownMembers _ _ _

/-- A struct without fields gets a placeholder; all others keep their fields. -/
theorem record_structDecl (c : Converter) (d : Cursor) :
    c.record .struct (t.fields d) =
      (c.fields (d.fields.map fun f => ⟨some f.spelling, t.type f.type⟩)).map fun slots =>
        if slots.isEmpty then Converter.placeholder else slots := by
  show c.record .struct (d.fields.map fun f => ⟨some f.spelling, t.type f.type⟩) = _
  cases d.fields with
  | nil => rfl
  | cons f rest =>
    rw [List.map_cons, Converter.record, List.isEmpty_cons, if_neg Bool.false_ne_true]
    cases hfields : c.fields (⟨some f.spelling, t.type f.type⟩ ::
        rest.map fun f => ⟨some f.spelling, t.type f.type⟩) with
    | error cause => rfl
    | ok slots =>
      rw [Converter.fields] at hfields
      obtain ⟨first, -, hfields⟩ := Converter.Result.of_bind_eq_ok hfields
      obtain ⟨others, -, hfields⟩ := Converter.Result.of_bind_eq_ok hfields
      cases hfields
      rfl

theorem kind_structDecl (t : CursorTree) (c : Cursor) :
    (structDecl t c).kind = .record c.spelling .struct (t.fields (t.definition c)) :=
  rfl

/-- **A struct whose fields are known is registered.** -/
theorem visit_structDecl_of_knows {c : Cursor} (hname : c.spelling ≠ "")
    (hfree : s.rules.typeName c.spelling ∉ s.types)
    (hknows : ∀ f ∈ (t.definition c).fields, ∃ kind, t.fieldKind? f.type = some kind ∧
      (s.openRecord (s.rules.typeName c.spelling)).converter.Names kind ∧
      (s.openRecord (s.rules.typeName c.spelling)).converter.Knows kind) :
    ∃ slots emitted package, List.Forall₂ (t.FieldAs s.rules) (t.definition c).fields slots ∧
      s.visit p (structDecl t c) = { s with
        types := s.types.register (s.rules.typeName c.spelling)
          ⟨.struct, .struct (if slots.isEmpty then Converter.placeholder else slots)⟩
        emitted, package } := by
  obtain ⟨slots, hslots, hforall⟩ := Converter.fields_of_knows hknows
  have hrecord : (s.openRecord (s.rules.typeName c.spelling)).converter.record .struct
      (t.fields (t.definition c)) =
        .ok (if slots.isEmpty then Converter.placeholder else slots) := by
    rw [record_structDecl, hslots]
    rfl
  have hvisit : s.visit p (structDecl t c) = s.declareType p (structDecl t c)
      (s.rules.typeName c.spelling)
      ⟨.struct, .struct (if slots.isEmpty then Converter.placeholder else slots)⟩ := by
    rw [visit, kind_structDecl]
    dsimp only
    rw [visitRecord, if_neg hname]
    dsimp only
    rw [if_neg hfree, hrecord]
    dsimp only
    rw [completeRecord_openRecord hfree, declareType]
  obtain ⟨emitted, package, hdeclare⟩ := declareType_eq s p (structDecl t c)
    (s.rules.typeName c.spelling)
    ⟨.struct, .struct (if slots.isEmpty then Converter.placeholder else slots)⟩
  exact ⟨slots, emitted, package, hforall, hvisit.trans hdeclare⟩

/-- **A struct with a field that is not known is only reported.** -/
theorem visit_structDecl_of_not_knows {c : Cursor} (hname : c.spelling ≠ "")
    (hfree : s.rules.typeName c.spelling ∉ s.types) {f : Cursor}
    (hf : f ∈ (t.definition c).fields) {kind : FieldKind} (hkind : t.fieldKind? f.type = some kind)
    (hnames : (s.openRecord (s.rules.typeName c.spelling)).converter.Names kind)
    (hknows : ¬ (s.openRecord (s.rules.typeName c.spelling)).converter.Knows kind) :
    (s.visit p (structDecl t c)).types = s.types := by
  obtain ⟨cause, hcause⟩ := Converter.fields_of_not_knows hf hkind hnames hknows
  have hrecord : (s.openRecord (s.rules.typeName c.spelling)).converter.record .struct
      (t.fields (t.definition c)) = .error cause := by
    rw [record_structDecl, hcause]
    rfl
  rw [visit_of_failsAt (.record (kind_structDecl t c) hname hfree hrecord), skip_eq]

/-- A record registers no name but its own. -/
theorem Outcome.mem_types_record {d : Decl} {name : String} {tag : Tag} {body : List (Slot CType)}
    {u : Session} (h : Outcome s p d u) (hkind : d.kind = .record name tag body) {n : String}
    (hn : n ∈ u.types) : n ∈ s.types ∨ n = s.rules.typeName name := by
  cases h with
  | passed => exact .inl hn
  | failed =>
    rw [skip_eq] at hn
    exact .inl hn
  | takenRecord =>
    obtain ⟨emitted, package, heq⟩ := emitType_eq s p d _
    rw [heq] at hn
    exact .inl hn
  | record hkind' =>
    cases hkind.symm.trans hkind'
    obtain ⟨emitted, package, heq⟩ := declareType_eq s p d _ _
    rw [heq] at hn
    exact (Registry.mem_register.1 hn).symm
  | function hkind' => cases hkind.symm.trans hkind'
  | takenTypedef htypedef => cases hkind.symm.trans htypedef.kind
  | typedef htypedef => cases hkind.symm.trans htypedef.kind
  | enum hkind' => cases hkind.symm.trans hkind'

/-! ### All structs of a header

Names of structs differ if their USRs do, so that the condition on USRs can be read off from the
names that are registered.
-/

/-- Structs of which a declaration came earlier are left out of what follows. -/
theorem structDecls_append (earlier first second : List Cursor) :
    structDecls t earlier (first ++ second) =
      structDecls t earlier first ++ structDecls t (earlier ++ first) second := by
  induction first generalizing earlier with
  | nil => rw [List.nil_append, List.append_nil]; rfl
  | cons c rest ih =>
    rw [List.cons_append, structDecls, structDecls, ih, List.append_assoc, List.append_assoc,
      List.singleton_append]

theorem rules_walk (p : Place) (s : Session) (ds : List Decl) : (walk p s ds).rules = s.rules := by
  rw [walk_eq_visitAll]
  exact rules_visitAll s _

/-- **Only structs that are first declared on the way are registered on the way.** -/
theorem mem_types_walk_structDecls {earlier rest : List Cursor} {n : String}
    (hn : n ∈ (walk p s (structDecls t earlier rest)).types) :
    n ∈ s.types ∨ ∃ c ∈ rest, c.usr ∉ earlier.map Cursor.usr ∧
      n = s.rules.typeName c.spelling := by
  induction rest generalizing earlier s with
  | nil => exact .inl hn
  | cons c rest ih =>
    rw [structDecls, walk_append] at hn
    have hrules := rules_walk p s (if c.usr ∈ earlier.map Cursor.usr then [] else [structDecl t c])
    rcases ih hn with hn | ⟨d, hd, husr, hname⟩
    · split at hn
      · exact .inl hn
      · next hnew =>
        rw [walk_structDecl] at hn
        rcases (outcome_visit s p _).mem_types_record (kind_structDecl t c) hn with hn | hname
        · exact .inl hn
        · exact .inr ⟨c, List.mem_cons_self, hnew, hname⟩
    · rw [hrules] at hname
      rw [List.map_append, List.mem_append, not_or] at husr
      exact .inr ⟨d, List.mem_cons_of_mem c hd, husr.1, hname⟩

/-- Some structs are registered, and nothing else is or has been reported. -/
structure Declares (s : Session) (t : CursorTree) (rules : PrefixRules) (structs : List Cursor) :
    Prop where
  rules_eq : s.rules = rules
  skipped : s.skipped = []
  registered : ∀ c ∈ structs, s.RegistersStruct t c
  names : ∀ n ∈ s.types, ∃ c ∈ structs, n = rules.typeName c.spelling

/-- A struct that is registered stays so when another name is registered. -/
theorem RegistersStruct.of_register {u : Session} {c : Cursor} (h : s.RegistersStruct t c)
    {target : String} {type : DeclaredType} (hrules : u.rules = s.rules) (hfree : target ∉ s.types)
    (htypes : u.types = s.types.register target type) : u.RegistersStruct t c := by
  obtain ⟨slots, hforall, hget⟩ := h
  have hne : s.rules.typeName c.spelling ≠ target := by
    rintro rfl
    exact hfree (OrderedMap.mem_of_get? hget)
  refine ⟨slots, hrules ▸ hforall, ?_⟩
  rw [htypes, hrules, Registry.get?_register, if_neg fun hnew => hne hnew.1]
  exact hget

/-- What is known to the converter when a struct is opened, told by the declared structs. -/
theorem Declares.names_of_mem (h : StructHeader t rules) {earlier : List Cursor}
    (hs : s.Declares t rules earlier) {c r : Cursor} (hr : r ∈ t.root.children)
    (hsub : earlier ++ [c] ⊆ t.root.children)
    (hmem : r.usr ∈ (earlier ++ [c]).map Cursor.usr) :
    (s.openRecord (s.rules.typeName c.spelling)).converter.Knows (.struct r) := by
  obtain ⟨e, he, husr⟩ := List.mem_map.1 hmem
  have hspelling : e.spelling = r.spelling := h.alike e (hsub he) r hr husr
  show s.rules.typeName r.spelling ∈ s.types.register (s.rules.typeName c.spelling) _
  rw [← hspelling, Registry.mem_register]
  rcases List.mem_append.1 he with he | he
  · obtain ⟨slots, -, hget⟩ := hs.registered e he
    exact .inr (OrderedMap.mem_of_get? hget)
  · rw [List.mem_singleton.1 he]
    exact .inl rfl

/-- A struct of the header has a name that refers to it. -/
theorem names_struct (h : StructHeader t rules) {c : Converter} (hrules : c.rules = rules)
    {r : Cursor} (hr : r ∈ t.root.children) : c.Names (.struct r) := by
  obtain ⟨hanonymous, hname, htypedef⟩ := h.named r hr
  rw [← hrules] at htypedef
  exact ⟨hanonymous, hname, htypedef⟩

/-- **One more struct whose fields point to declared structs is declared.** -/
theorem Declares.visit (h : StructHeader t rules) {earlier : List Cursor} {c : Cursor}
    (hs : s.Declares t rules earlier) (hsub : earlier ++ [c] ⊆ t.root.children)
    (hnew : c.usr ∉ earlier.map Cursor.usr)
    (hpoints : t.PointsTo (t.definition c) (earlier ++ [c])) :
    (s.visit p (structDecl t c)).Declares t rules (earlier ++ [c]) := by
  have hc : c ∈ t.root.children := hsub (List.mem_append_right _ (List.mem_singleton_self c))
  have hfree : s.rules.typeName c.spelling ∉ s.types := by
    intro hmem
    obtain ⟨e, he, hname⟩ := hs.names _ hmem
    rw [hs.rules_eq] at hname
    have husr := h.apart c hc e (hsub (List.mem_append_left _ he)) hname
    exact hnew (husr ▸ List.mem_map_of_mem he)
  have hknows : ∀ f ∈ (t.definition c).fields, ∃ kind, t.fieldKind? f.type = some kind ∧
      (s.openRecord (s.rules.typeName c.spelling)).converter.Names kind ∧
      (s.openRecord (s.rules.typeName c.spelling)).converter.Knows kind := by
    intro f hf
    obtain ⟨kind, hkind, hin⟩ := h.fields _ (h.definition_mem hc) f hf
    refine ⟨kind, hkind, ?_⟩
    cases kind with
    | value target => exact ⟨trivial, trivial⟩
    | pointer target => exact ⟨trivial, trivial⟩
    | struct r =>
      have hr := hin r rfl
      exact ⟨names_struct h hs.rules_eq hr, hs.names_of_mem h hr hsub (hpoints f hf r hkind)⟩
  obtain ⟨slots, emitted, package, hforall, hvisit⟩ :=
    visit_structDecl_of_knows (p := p) (h.named c hc).2.1 hfree hknows
  rw [hvisit]
  refine ⟨hs.rules_eq, hs.skipped, ?_, ?_⟩
  · intro e he
    rcases List.mem_append.1 he with he | he
    · exact (hs.registered e he).of_register rfl hfree rfl
    · rw [List.mem_singleton.1 he]
      refine ⟨slots, hforall, ?_⟩
      rw [Registry.get?_register, if_pos ⟨rfl, hfree⟩]
  · intro n hn
    rcases Registry.mem_register.1 hn with hn | hn
    · exact ⟨c, List.mem_append_right _ (List.mem_singleton_self c), hs.rules_eq ▸ hn⟩
    · obtain ⟨e, he, hname⟩ := hs.names n hn
      exact ⟨e, List.mem_append_left _ he, hname⟩

/-- A struct that is declared again stays as it is. -/
theorem Declares.again (h : StructHeader t rules) {earlier : List Cursor} {c : Cursor}
    (hs : s.Declares t rules earlier) (hsub : earlier ++ [c] ⊆ t.root.children)
    (hmem : c.usr ∈ earlier.map Cursor.usr) : s.Declares t rules (earlier ++ [c]) := by
  refine ⟨hs.rules_eq, hs.skipped, ?_, ?_⟩
  · intro d hd
    rcases List.mem_append.1 hd with hd | hd
    · exact hs.registered d hd
    · rw [List.mem_singleton.1 hd]
      obtain ⟨e, he, husr⟩ := List.mem_map.1 hmem
      have hmemC := hsub (List.mem_append_right _ (List.mem_singleton_self c))
      have hmemE := hsub (List.mem_append_left [c] he)
      obtain ⟨slots, hforall, hget⟩ := hs.registered e he
      rw [h.fields_definition hmemE hmemC husr] at hforall
      rw [h.alike e hmemE c hmemC husr] at hget
      exact ⟨slots, hforall, hget⟩
  · intro n hn
    obtain ⟨e, he, hname⟩ := hs.names n hn
    exact ⟨e, List.mem_append_left _ he, hname⟩

/-- **Structs that are declared before they are mentioned are all declared**, by induction on those
that are still to come. -/
theorem Declares.walk (h : StructHeader t rules) (hdeclares : t.DeclaresBeforeMention)
    {rest earlier : List Cursor} (hs : s.Declares t rules earlier)
    (hsplit : t.root.children = earlier ++ rest) :
    (walk p s (structDecls t earlier rest)).Declares t rules t.root.children := by
  induction rest generalizing earlier s with
  | nil =>
    rw [hsplit, List.append_nil]
    exact hs
  | cons c rest ih =>
    have hnext : t.root.children = (earlier ++ [c]) ++ rest := by
      rw [hsplit, List.append_assoc, List.singleton_append]
    have hsub : earlier ++ [c] ⊆ t.root.children := by
      rw [hnext]
      exact List.subset_append_left _ _
    rw [structDecls, walk_append]
    refine ih ?_ hnext
    split
    · next hmem => exact hs.again h hsub hmem
    · next hnew =>
      rw [walk_structDecl]
      exact hs.visit h hsub hnew (hdeclares earlier c rest hsplit hnew)

/-- **A struct is not registered on the way unless it is first declared there.** -/
theorem not_mem_types_of_not_declared (h : StructHeader t rules) (hrules : s.rules = rules)
    {earlier rest : List Cursor} (hsub : rest ⊆ t.root.children) {d : Cursor}
    (hd : d ∈ t.root.children)
    (hother : d.usr ∈ earlier.map Cursor.usr ∨ d.usr ∉ rest.map Cursor.usr)
    (hfree : rules.typeName d.spelling ∉ s.types) :
    rules.typeName d.spelling ∉ (walk p s (structDecls t earlier rest)).types := by
  intro hmem
  rcases mem_types_walk_structDecls hmem with hmem | ⟨e, he, hnew, hname⟩
  · exact hfree hmem
  · rw [hrules] at hname
    have husr : d.usr = e.usr := h.apart d hd e (hsub he) hname
    rcases hother with hdone | hout
    · exact hnew (husr ▸ hdone)
    · exact hout (husr ▸ List.mem_map_of_mem he)

/-- **A struct with a field that points to a struct declared later is not registered.** -/
theorem not_mem_types_walk (h : StructHeader t rules) (hrules : s.rules = rules)
    (hempty : s.types = ∅) {earlier later : List Cursor} {c f r : Cursor}
    (hsplit : t.root.children = earlier ++ c :: later) (hnew : c.usr ∉ earlier.map Cursor.usr)
    (hf : f ∈ (t.definition c).fields) (hkind : t.fieldKind? f.type = some (.struct r))
    (hlater : r.usr ∉ (earlier ++ [c]).map Cursor.usr) :
    rules.typeName c.spelling ∉ (walk p s (structDecls t [] t.root.children)).types := by
  have hc : c ∈ t.root.children := hsplit ▸ List.mem_append_cons_self
  have hr : r ∈ t.root.children := by
    obtain ⟨kind, hkind', hin⟩ := h.fields _ (h.definition_mem hc) f hf
    exact hin r (Option.some.inj (hkind'.symm.trans hkind))
  have hsubEarlier : earlier ⊆ t.root.children := by
    rw [hsplit]
    exact List.subset_append_left _ _
  have hsubLater : later ⊆ t.root.children := by
    rw [hsplit]
    exact fun d hd => List.mem_append_right _ (List.mem_cons_of_mem c hd)
  rw [List.map_append, List.mem_append, not_or] at hlater
  rw [hsplit, structDecls_append, List.nil_append, walk_append, structDecls, if_neg hnew,
    walk_append, walk_structDecl]
  -- before the struct is visited, only the earlier ones are registered
  have hbefore : ∀ {d : Cursor}, d ∈ t.root.children → d.usr ∉ earlier.map Cursor.usr →
      rules.typeName d.spelling ∉ (walk p s (structDecls t [] earlier)).types := by
    intro d hd husr
    refine not_mem_types_of_not_declared h hrules hsubEarlier hd (.inr husr) ?_
    rw [hempty]
    intro hmem
    cases hmem
  have hrulesBefore := (rules_walk p s (structDecls t [] earlier)).trans hrules
  generalize walk p s (structDecls t [] earlier) = before at hbefore hrulesBefore ⊢
  have hfree := hbefore hc hnew
  have hvisit : (before.visit p (structDecl t c)).types = before.types := by
    refine visit_structDecl_of_not_knows (h.named c hc).2.1 (hrulesBefore ▸ hfree) hf hkind
      (names_struct h hrulesBefore hr) ?_
    show before.rules.typeName r.spelling ∉ before.types.register _ _
    rw [hrulesBefore, Registry.mem_register, not_or]
    exact ⟨fun hname => hlater.2 (List.mem_singleton.2 (h.apart r hr c hc hname)),
      hbefore hr hlater.1⟩
  -- afterwards it is not declared for the first time any more
  refine not_mem_types_of_not_declared h ((rules_visit before p _).trans hrulesBefore) hsubLater hc
    (.inl (List.mem_map_of_mem List.mem_append_cons_self)) ?_
  rw [hvisit]
  exact hfree

/-! ### The condition on a header

One direction is the induction on the structs that are still to come. For the other one, a field
that points to a struct declared later is picked, and the walk is split at the struct with this
field: what it points to is not registered by then, so the struct is reported and registered by
nothing that follows.
-/

/-- **The structs of a header are all registered, without a report, if and only if every struct to
which a field points is declared no later than the struct with the field is for the first time.** -/
theorem structs_registered_iff (options : SessionOptions) {t : CursorTree} (path : String)
    (h : StructHeader t (.ofLists options.trimPrefixes options.replPrefixes)) :
    ∃ decls, t.decls? = some decls ∧
      ((∀ c ∈ t.root.children, ((start options).process ⟨path, decls⟩).RegistersStruct t c) ∧
        ((start options).process ⟨path, decls⟩).skipped = [] ↔ t.DeclaresBeforeMention) := by
  refine ⟨_, h.decls?_eq, ?_, ?_⟩
  · rintro ⟨hregistered, -⟩ earlier c later hsplit hnew f hf r hkind
    by_contra hlater
    have hc : c ∈ t.root.children := hsplit ▸ List.mem_append_cons_self
    obtain ⟨slots, -, hget⟩ := hregistered c hc
    have hmem := OrderedMap.mem_of_get? hget
    have hrules : ((start options).process ⟨path, structDecls t [] t.root.children⟩).rules =
        (start options).rules :=
      rules_walk ⟨path, []⟩ (start options) (structDecls t [] t.root.children)
    rw [hrules] at hmem
    exact not_mem_types_walk (p := ⟨path, []⟩) h rfl rfl hsplit hnew hf hkind hlater hmem
  · intro hdeclares
    have hstart : (start options).Declares t _ [] :=
      ⟨rfl, rfl, fun c hc => (nomatch hc), fun n hn => (nomatch hn)⟩
    have hend := hstart.walk (p := ⟨path, []⟩) h hdeclares rfl
    exact ⟨hend.registered, hend.skipped⟩

/-! ### Two headers of structs

In both headers each struct is declared before it is pointed to, `task` by a forward declaration. In
the first one all structs are registered. In the second one `task` points to `queue`, and its fields
are converted where its forward declaration stands, in front of `queue`.
-/

def queueField (name : String) (type : CursorType) : Cursor where
  kind := .field
  spelling := name
  location := { file := some "queue.h" }
  type := type

def pointerToStruct (id : String) : CursorType := .pointer (.elaborated (.record (some id)))

def queueCursor (id name : String) (definition : Link) (fields : List Cursor) : Cursor where
  kind := .tagged .struct
  id? := some id
  spelling := name
  usr := "c:@S@" ++ name
  location := { file := some "queue.h" }
  definition := definition
  children := fields

/-- The forward declaration `struct task;`. -/
def taskForward : Cursor := queueCursor "task" "task" (.explicit "task definition") []

/-- The definition `struct queue { struct task *head; };`. -/
def queueStruct : Cursor :=
  queueCursor "queue" "queue" .implied [queueField "head" (pointerToStruct "task definition")]

/-- The definition `struct task { int priority; struct … *link; };`, where the link points to the
struct with an identifier. -/
def taskStruct (target : String) : Cursor :=
  queueCursor "task definition" "task" .implied
    [queueField "priority" (.scalar .int), queueField "link" (pointerToStruct target)]

/-- The header `queue.h`: the three declarations in order. -/
def queueTree (target : String) : CursorTree where
  root := { kind := .unit, children := [taskForward, queueStruct, taskStruct target] }

theorem mem_queueTree {target : String} {c : Cursor} (h : c ∈ (queueTree target).root.children) :
    c = taskForward ∨ c = queueStruct ∨ c = taskStruct target := by
  simpa [queueTree] using h

theorem queueStruct_mem (target : String) : queueStruct ∈ (queueTree target).root.children :=
  List.mem_cons_of_mem _ List.mem_cons_self

theorem taskStruct_mem (target : String) :
    taskStruct target ∈ (queueTree target).root.children :=
  List.mem_cons_of_mem _ (List.mem_cons_of_mem _ List.mem_cons_self)

theorem queueTree_structHeader {target : String}
    (htarget : target = "queue" ∨ target = "task definition") :
    StructHeader (queueTree target) (.ofLists [] []) where
  struct c hc := by
    rcases mem_queueTree hc with rfl | rfl | rfl <;> exact ⟨rfl, rfl⟩
  named c hc := by
    rcases htarget with rfl | rfl <;> rcases mem_queueTree hc with rfl | rfl | rfl <;>
      exact ⟨rfl, by decide, by decide +kernel⟩
  usr c hc := by
    rcases htarget with rfl | rfl <;> rcases mem_queueTree hc with rfl | rfl | rfl <;> decide
  alike c hc d hd husr := by
    rcases htarget with rfl | rfl <;> rcases mem_queueTree hc with rfl | rfl | rfl <;>
      rcases mem_queueTree hd with rfl | rfl | rfl <;>
      first | rfl | exact absurd husr (by decide)
  apart c hc d hd hname := by
    rcases htarget with rfl | rfl <;> rcases mem_queueTree hc with rfl | rfl | rfl <;>
      rcases mem_queueTree hd with rfl | rfl | rfl <;>
      first | rfl | exact absurd hname (by decide +kernel)
  defined c hc d hd husr hdefinition := by
    rcases htarget with rfl | rfl <;> rcases mem_queueTree hc with rfl | rfl | rfl <;>
      rcases mem_queueTree hd with rfl | rfl | rfl <;>
      first | rfl | exact absurd husr (by decide) | exact absurd hdefinition (by decide)
  undefined c hc hnone := by
    rcases mem_queueTree hc with rfl | rfl | rfl
    · exact absurd rfl (hnone _ (taskStruct_mem target) rfl)
    · exact absurd rfl (hnone _ (queueStruct_mem target) rfl)
    · exact absurd rfl (hnone _ (taskStruct_mem target) rfl)
  forward c hc hforward := by
    rcases mem_queueTree hc with rfl | rfl | rfl
    · rfl
    · exact absurd rfl hforward
    · exact absurd rfl hforward
  members c hc m hm := by
    rcases mem_queueTree hc with rfl | rfl | rfl
    · cases hm
    · rw [List.mem_singleton.1 hm]
      rfl
    · rcases List.mem_pair.1 hm with rfl | rfl <;> rfl
  fields c hc f hf := by
    rcases mem_queueTree hc with rfl | rfl | rfl
    · cases hf
    · rw [List.mem_singleton.1 hf]
      exact ⟨.struct (taskStruct target), rfl,
        fun r hr => FieldKind.struct.inj hr ▸ taskStruct_mem target⟩
    · rcases List.mem_pair.1 hf with rfl | rfl
      · exact ⟨.value (.scalar .int), rfl, fun r hr => nomatch hr⟩
      · rcases htarget with rfl | rfl
        · exact ⟨.struct queueStruct, rfl,
            fun r hr => FieldKind.struct.inj hr ▸ queueStruct_mem _⟩
        · exact ⟨.struct (taskStruct "task definition"), rfl,
            fun r hr => FieldKind.struct.inj hr ▸ taskStruct_mem _⟩

theorem queueStruct_pointsTo (target : String) {declared : List Cursor}
    (h : "c:@S@task" ∈ declared.map Cursor.usr) :
    (queueTree target).PointsTo queueStruct declared := by
  intro f hf r hr
  rw [List.mem_singleton.1 hf] at hr
  cases hr
  exact h

theorem taskStruct_pointsTo {target usr : String} {declared : List Cursor}
    (husr : ((queueTree target).decl (some target)).usr = usr)
    (h : usr ∈ declared.map Cursor.usr) :
    (queueTree target).PointsTo (taskStruct target) declared := by
  intro f hf r hr
  rcases List.mem_pair.1 hf with rfl | rfl
  · cases hr
  · cases hr
    exact husr ▸ h

theorem queueTree_declaresBeforeMention :
    (queueTree "task definition").DeclaresBeforeMention := by
  intro earlier c later hsplit hnew
  rcases earlier with _ | ⟨first, _ | ⟨second, _ | ⟨third, rest⟩⟩⟩
  · cases hsplit
    exact taskStruct_pointsTo rfl (by decide)
  · cases hsplit
    exact queueStruct_pointsTo _ (by decide)
  · cases hsplit
    exact absurd hnew (by decide)
  · simp [queueTree] at hsplit

theorem queueTree_declaresBeforeUse : (queueTree "queue").DeclaresBeforeUse := by
  intro earlier c later hsplit hdefinition
  rcases earlier with _ | ⟨first, _ | ⟨second, _ | ⟨third, rest⟩⟩⟩
  · cases hsplit
    cases hdefinition
  · cases hsplit
    exact queueStruct_pointsTo _ (by decide)
  · cases hsplit
    exact taskStruct_pointsTo rfl (by decide)
  · simp [queueTree] at hsplit

theorem structs_registered_queueTree :
    StructHeader (queueTree "task definition") (.ofLists [] []) ∧
    (queueTree "task definition").DeclaresBeforeMention ∧
    ∃ decls, (queueTree "task definition").decls? = some decls ∧
      (∀ c ∈ [taskForward, queueStruct, taskStruct "task definition"],
        ((start {}).process ⟨"queue.h", decls⟩).RegistersStruct (queueTree "task definition") c) ∧
      ((start {}).process ⟨"queue.h", decls⟩).skipped = [] := by
  have hheader := queueTree_structHeader (.inr rfl)
  have hdeclares := queueTree_declaresBeforeMention
  obtain ⟨decls, hdecls, hiff⟩ := structs_registered_iff {} "queue.h" hheader
  exact ⟨hheader, hdeclares, decls, hdecls, hiff.2 hdeclares⟩

/-- A header that declares every struct before it is used, with a link from each of the two structs
to the other. None of them is registered, and both are reported. -/
theorem queueTree_not_registered :
    StructHeader (queueTree "queue") (.ofLists [] []) ∧ (queueTree "queue").DeclaresBeforeUse ∧
    ∃ decls, (queueTree "queue").decls? = some decls ∧
      ((start {}).process ⟨"queue.h", decls⟩).types = ∅ ∧
      ((start {}).process ⟨"queue.h", decls⟩).skipped =
        [⟨"task", "queue.h", .unresolvedAlias "queue"⟩,
          ⟨"queue", "queue.h", .unresolvedAlias "task"⟩] :=
  ⟨queueTree_structHeader (.inl rfl), queueTree_declaresBeforeUse, _, rfl, rfl, rfl⟩

end Session

end HeaderBindings
