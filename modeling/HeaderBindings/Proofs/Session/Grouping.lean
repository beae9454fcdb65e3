import HeaderBindings.Session.Walk

/-!
# What only groups declarations does not show

A walk through two lists of declarations is one walk after the other, from any session. Linkage
blocks, and namespaces and records without a name, group declarations and do nothing else: they are
not visited for themselves, and what is nested in them stands at the same place as they do. So they
may be replaced by their children, wherever they stand (`process_grouping`).
-/

namespace HeaderBindings

/-- Whether a declaration only groups others: a linkage block, or a namespace or record without a
name. -/
def DeclKind.isGroup : DeclKind → Bool
  | .linkage | .scope none => true
  | .record name _ _ => name = ""
  | .scope (some _) | .function _ | .enum _ _ | .typedef _ _ | .unknown _ => false

/-- Some groups of a forest, at any depth, are replaced by their children. -/
inductive Ungroups : List Decl → List Decl → Prop where
  | refl (ds : List Decl) : Ungroups ds ds
  /-- A declaration stays, and groups may be replaced below it. -/
  | keep {d : Decl} {children rest rest' : List Decl} :
    Ungroups d.children children → Ungroups rest rest' →
      Ungroups (d :: rest) ({ d with children } :: rest')
  /-- The children of a group take its place, and groups may be replaced among them. -/
  | splice {d : Decl} {children rest rest' : List Decl} : d.kind.isGroup →
    Ungroups d.children children → Ungroups rest rest' → Ungroups (d :: rest) (children ++ rest')

theorem Ungroups.of_isGroup {d : Decl} {children : List Decl} (h : d.kind.isGroup)
    (hchildren : Ungroups d.children children) : Ungroups [d] children := by
  have hsplice := Ungroups.splice h hchildren (.refl [])
  rwa [List.append_nil] at hsplice

namespace Session

/-! ### Groups -/

theorem inside_of_isGroup {kind : DeclKind} (h : kind.isGroup) (p : Place) : p.inside kind = p := by
  cases kind with
  | scope name =>
    cases name with
    | none => rfl
    | some name => cases h
  | linkage => rfl
  | record name tag body =>
    have hname : name = "" := of_decide_eq_true h
    exact if_pos hname
  | function | enum | typedef | unknown => cases h

theorem visit_of_isGroup {d : Decl} (h : d.kind.isGroup) (s : Session) (p : Place) :
    s.visit p d = s := by
  obtain ⟨kind, children, location, access, doc⟩ := d
  cases kind with
  | scope | linkage | unknown => rfl
  | record name tag body =>
    -- a record without a name is not even converted
    have hname : name = "" := of_decide_eq_true h
    exact if_pos hname
  | function | enum | typedef => cases h

theorem isEntered_of_isGroup {kind : DeclKind} (h : kind.isGroup) : kind.isEntered := by
  cases kind with
  | scope | linkage | record => rfl
  | function | enum | typedef | unknown => cases h

/-- **Walking through a group is walking through its children.** -/
theorem walkDecl_of_isGroup {d : Decl} (h : d.kind.isGroup) (p : Place) (s : Session) :
    walkDecl p s d = walk p s d.children := by
  have hvisit := visit_of_isGroup h s p
  obtain ⟨kind, children, location, access, doc⟩ := d
  rw [walkDecl, if_pos (isEntered_of_isGroup h), inside_of_isGroup h, hvisit]

/-! ### Declarations that stay -/

theorem visit_withChildren (s : Session) (p : Place) (d : Decl) (children : List Decl) :
    s.visit p { d with children } = s.visit p d :=
  rfl

/-- Declarations whose children are walked through alike are walked through alike. -/
theorem walkDecl_withChildren {d : Decl} {children : List Decl}
    (h : ∀ p s, walk p s children = walk p s d.children) (p : Place) (s : Session) :
    walkDecl p s { d with children } = walkDecl p s d := by
  have hvisit := visit_withChildren s p d children
  obtain ⟨kind, children', location, access, doc⟩ := d
  rw [walkDecl, walkDecl, hvisit, h]

/-! ### Forests -/

/-- **Replacing groups by their children does not change a walk**, by induction on the forest. -/
theorem walk_ungroups {ds ds' : List Decl} (h : Ungroups ds ds') (p : Place) (s : Session) :
    walk p s ds' = walk p s ds := by
  induction h generalizing p s with
  | refl => rfl
  | keep _ _ ihchildren ihrest =>
    rw [walk, walk, walkDecl_withChildren ihchildren, ihrest]
  | splice hgroup _ _ ihchildren ihrest =>
    rw [walk_append, walk, walkDecl_of_isGroup hgroup, ihchildren, ihrest]

/-- **Walks are put together from walks, and groups do not show in them.**

From any session, a walk through a header is a walk through its first declarations and then one
through the others; and it ends in the same session when linkage blocks and namespaces and records
without a name, at any depth, are replaced by their children. -/
theorem process_grouping (s : Session) (path : String) :
    (∀ first second : List Decl,
      s.process ⟨path, first ++ second⟩ = (s.process ⟨path, first⟩).process ⟨path, second⟩) ∧
    ∀ ds ds' : List Decl, Ungroups ds ds' → s.process ⟨path, ds'⟩ = s.process ⟨path, ds⟩ := by
  refine ⟨fun first second => walk_append ⟨path, []⟩ s first second, ?_⟩
  intro ds ds' h
  exact walk_ungroups h ⟨path, []⟩ s

def poolDecl (kind : DeclKind) (children : List Decl) : Decl where
  kind := kind
  children := children
  location := { file := some "pool.h" }
  access := .publicMember

def poolMethod (name : String) : Decl :=
  poolDecl
    (.function
      { name, displayName := name ++ "()", mangledName := name, kind := .method
        type := { params := [], result := .builtin .void } }) []

/-- A class in a namespace of the header `pool.h`. -/
def poolClass (members : List Decl) : Decl :=
  poolDecl (.record "Pool" .classTag [⟨some "size", .builtin .int⟩]) members

/-- A method in a record without a name, whose field cannot be converted. -/
def poolUnion : Decl :=
  poolDecl (.record "" .union [⟨none, .named { name := "slot_t" }⟩]) [poolMethod "open"]

/-- The class behind a linkage block and a namespace without a name. -/
def poolGrouped : List Decl :=
  [poolDecl (.scope (some "io"))
    [poolDecl .linkage [poolDecl (.scope none) [poolClass [poolUnion, poolMethod "close"]]]]]

/-- The same declarations without groups. -/
def poolPlain : List Decl :=
  [poolDecl (.scope (some "io")) [poolClass [poolMethod "open", poolMethod "close"]]]

theorem process_grouping_pool :
    Ungroups poolGrouped poolPlain ∧
    (start {}).process ⟨"pool.h", poolPlain⟩ = (start {}).process ⟨"pool.h", poolGrouped⟩ ∧
    ((start {}).process ⟨"pool.h", poolPlain⟩).symbols.values =
      [⟨"(*Pool).Open", "io::Pool::open()"⟩, ⟨"(*Pool).Close", "io::Pool::close()"⟩] := by
  have hmembers : Ungroups [poolUnion, poolMethod "close"]
      ([poolMethod "open"] ++ [poolMethod "close"]) :=
    .splice rfl (.refl _) (.refl _)
  have hclass : Ungroups [poolClass [poolUnion, poolMethod "close"]]
      [poolClass [poolMethod "open", poolMethod "close"]] :=
    .keep hmembers (.refl [])
  have hungroups : Ungroups poolGrouped poolPlain :=
    .keep (.of_isGroup rfl (.of_isGroup rfl hclass)) (.refl [])
  exact ⟨hungroups, (process_grouping (start {}) "pool.h").2 _ _ hungroups, by decide +kernel⟩

end Session

end HeaderBindings
