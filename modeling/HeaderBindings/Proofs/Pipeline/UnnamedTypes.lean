import HeaderBindings.Proofs.Conversion.Leaves
import HeaderBindings.Proofs.Cursor.TaggedOnce
import HeaderBindings.Proofs.Session.Outcome
import HeaderBindings.Session.Walk

/-!
# Records and enumerations without a name of their own

A record or an enumeration that has no name is lowered under the name of the typedef that names it.
A type may refer to it through that typedef, or directly, as all but the first of several typedefs
in one declaration do. Only through the typedef it has the name: a direct reference has none, behind
however many pointers and arrays, and cannot be converted. So nothing that uses such a type is
registered or indexed (`unnamed_type_reached_iff`).

## Two ways to refer to a type

The compiler describes a type either as the typedef that is written in the source or as the record
itself. Both descriptions may be wrapped in pointers, arrays, keywords and scopes, which make no
difference (`CursorTree.leaf_type`): at the innermost place stands a reference, and its name is that
of the typedef in the one case, and that of the record in the other
(`CursorTree.leaf_of_refersThrough`, `CursorTree.leaf_of_refersDirectly`). A record without a name
of its own has none there, although it is lowered under one.

A reference without a name is refused by the converter before anything else is asked. So for
whatever uses a direct reference there is no need to know what is registered
(`Session.visit_of_uses`).

## The typedefs of a declaration

The first typedef of a declaration names the record: the record is lowered in the place of the
typedef, under its name (`Outline.ofTypedef_of_named`). For any further typedef the record is done,
and the typedef is an alias of a type that is referred to directly (`Outline.ofTypedef_of_done`). It
is therefore reported, and its name is not registered.
-/

namespace HeaderBindings

namespace CursorType

/-- The type behind all pointers and arrays, keywords, scopes and attributes, in its canonical
form. -/
def leaf : CursorType → CursorType
  | pointer pointee => leaf pointee
  | array elem _ => leaf elem
  | elaborated named => leaf named
  | attributed modified => leaf modified
  | unexposed spelling canonical =>
    match canonical with
    | none => unexposed spelling none
    | some (unexposed inner further) => unexposed spelling (some (unexposed inner further))
    | some canonical => leaf canonical
  | type => type

end CursorType

namespace CursorTree

variable {t : CursorTree} {c : Cursor} {type : CursorType}

/-- **Behind pointers and arrays, a type refers to what the compiler's type does.** -/
theorem leaf_type (t : CursorTree) : ∀ type : CursorType,
    (t.type type).leaf = (t.type type.leaf).leaf
  | .pointer pointee => by
    rw [CursorType.leaf, ← leaf_type t pointee, CursorTree.type]
    rfl
  | .array elem size => by
    rw [CursorType.leaf, ← leaf_type t elem, CursorTree.type]
    rfl
  | .elaborated named => by rw [CursorType.leaf, ← leaf_type t named, CursorTree.type]
  | .attributed modified => by rw [CursorType.leaf, ← leaf_type t modified, CursorTree.type]
  | .unexposed spelling none => by rw [CursorType.leaf]
  | .unexposed spelling (some canonical) => by
    have hcanonical := leaf_type t canonical
    cases canonical with
    | unexposed inner further => rfl
    | _ => exact hcanonical
  | .scalar _ | .complex _ | .function _ _ _ | .typedef _ | .record _ | .enum _ | .other _ => rfl

/-- A type refers to the record or enumeration `c` itself. -/
def RefersDirectly (t : CursorTree) (c : Cursor) (type : CursorType) : Prop :=
  ∃ decl, (type.leaf = .record decl ∨ type.leaf = .enum decl) ∧ t.decl decl = c

/-- A type refers to the typedef `c`. -/
def RefersThrough (t : CursorTree) (c : Cursor) (type : CursorType) : Prop :=
  ∃ decl, type.leaf = .typedef decl ∧ t.decl decl = c

theorem leaf_of_refersThrough (h : t.RefersThrough c type) :
    ∃ ref, (t.type type).leaf = .named ref ∧ ref.name = c.spelling := by
  obtain ⟨decl, hleaf, rfl⟩ := h
  rw [leaf_type, hleaf, CursorTree.type]
  exact ⟨_, rfl, rfl⟩

/-- **A direct reference to what has no name is a reference without a name.** -/
theorem leaf_of_refersDirectly (h : t.RefersDirectly c type) (hanonymous : c.isAnonymous) :
    ∃ ref, (t.type type).leaf = .named ref ∧ ref.name = "" := by
  obtain ⟨decl, hleaf, rfl⟩ := h
  have hleaf' : (t.type type).leaf = (t.taggedRef decl).leaf := by
    rw [leaf_type]
    rcases hleaf with hleaf | hleaf
    · rw [hleaf, CursorTree.type]
    · rw [hleaf, CursorTree.type]
  rw [hleaf']
  exact ⟨_, rfl, if_pos hanonymous⟩

/-- **A direct reference to what has no name is never converted**, wherever it stands. -/
theorem type_of_refersDirectly (h : t.RefersDirectly c type) (hanonymous : c.isAnonymous)
    (converter : Converter) (asParam : Bool) :
    converter.type asParam (t.type type) = .error .anonymousReference := by
  obtain ⟨ref, hleaf, hname⟩ := leaf_of_refersDirectly h hanonymous
  apply Converter.type_of_leaf_error
  intro asParam
  rw [hleaf, Converter.type, Converter.reference, if_pos hname]

/-- A reference to the typedef may fail, but never for want of a name. -/
theorem type_of_refersThrough (h : t.RefersThrough c type) (hspelling : c.spelling ≠ "")
    (converter : Converter) (asParam : Bool) :
    converter.type asParam (t.type type) ≠ .error .anonymousReference := by
  intro hfail
  obtain ⟨ref, hleaf, hname⟩ := leaf_of_refersThrough h
  rcases Converter.type_error_cases hfail with ⟨asParam, hfail⟩ | hfail | ⟨length, hfail⟩
  · rw [hleaf, Converter.type] at hfail
    exact Converter.reference_ne_anonymous (hname ▸ hspelling) hfail
  · cases hfail
  · cases hfail

end CursorTree

/-! ### Declarations that use a type

A declaration is converted as a whole. If one of the types in it cannot be converted, nothing of it
is registered or indexed, in whatever session it is visited.
-/

/-- A declaration uses a type: as what a typedef names, or as the type of a field, a parameter or a
result. -/
inductive Decl.Uses (type : CType) (d : Decl) : Prop where
  | typedef {name} : d.kind = .typedef name type → Uses type d
  | field {name tag body name?} : d.kind = .record name tag body → ⟨name?, type⟩ ∈ body →
      Uses type d
  | param {f name?} : d.kind = .function f → ⟨name?, type⟩ ∈ f.type.params → Uses type d
  | result {f} : d.kind = .function f → f.type.result = type → Uses type d

namespace Session

variable {s : Session} {p : Place} {d : Decl}

/-- **What uses a type that cannot be converted is neither registered nor indexed.** -/
theorem visit_of_uses {type : CType} {cause : ConversionError} (huses : d.Uses type)
    (h : ∀ (c : Converter) asParam, c.type asParam type = .error cause) (s : Session) (p : Place) :
    (s.visit p d).types = s.types ∧ (s.visit p d).symbols = s.symbols := by
  have hnever : ∀ {c : Converter} {asParam : Bool} {result : TargetType},
      c.type asParam type ≠ .ok result := by
    intro c asParam result hok
    cases (h c asParam).symm.trans hok
  have houtcome := outcome_visit s p d
  generalize s.visit p d = u at houtcome
  cases houtcome with
  | passed => exact ⟨rfl, rfl⟩
  | failed =>
    rw [skip_eq]
    exact ⟨rfl, rfl⟩
  | takenRecord | takenTypedef =>
    obtain ⟨emitted, package, heq⟩ := emitType_eq s p d _
    rw [heq]
    exact ⟨rfl, rfl⟩
  | function hkind _ _ hok =>
    obtain ⟨converted, isOpen, result, hparams, hresult, -⟩ :=
      Converter.exists_parts_of_signature_eq_ok hok
    cases huses with
    | param hkind' hslot =>
      cases hkind.symm.trans hkind'
      have hne : type ≠ .variadic := by
        rintro rfl
        cases (h s.converter true).symm.trans rfl
      obtain ⟨found, hfound⟩ := Converter.exists_type_of_params_eq_ok hparams _ hslot hne
      exact absurd hfound hnever
    | result hkind' heq =>
      cases hkind.symm.trans hkind'
      rw [heq] at hresult
      exact absurd hresult hnever
    | typedef hkind' | field hkind' => cases hkind.symm.trans hkind'
  | record hkind _ _ hok =>
    cases huses with
    | field hkind' hslot =>
      cases hkind.symm.trans hkind'
      obtain ⟨found, hfound⟩ := Converter.exists_record_iff.1 ⟨_, hok⟩ _ hslot
      exact absurd hfound hnever
    | typedef hkind' | param hkind' | result hkind' => cases hkind.symm.trans hkind'
  | typedef htypedef _ hok =>
    cases huses with
    | typedef hkind' =>
      cases htypedef.kind.symm.trans hkind'
      exact absurd hok hnever
    | field hkind' | param hkind' | result hkind' => cases htypedef.kind.symm.trans hkind'
  | enum hkind =>
    cases huses with
    | typedef hkind' | field hkind' | param hkind' | result hkind' =>
      cases hkind.symm.trans hkind'

end Session

/-! ### The typedef that names

Here the outline is looked at, where it is decided which typedef lowers the record. What is done by
then is told by the USRs.
-/

namespace Outline

variable {t : CursorTree} {inside : Seen → Cursor → Result} {seen done : Seen} {d e target : Cursor}
  {outlines : List Outline}

theorem exists_decl_of_named? (h : t.named? d = some target) :
    ∃ decl, (d.underlying.stripped = .record decl ∨ d.underlying.stripped = .enum decl) ∧
      t.decl decl = target := by
  unfold CursorTree.named? at h
  split at h
  · next decl _ hstripped =>
    cases h
    exact ⟨decl, .inl hstripped, rfl⟩
  · next decl _ hstripped =>
    cases h
    exact ⟨decl, .inr hstripped, rfl⟩
  · cases h

/-- **What has no name of its own is lowered under the name of the typedef**, if it is not done. -/
theorem ofTypedef_of_named (hnames : t.named? d = some target) (hanonymous : target.isAnonymous)
    (hnew : mark? seen target ≠ none) (h : ofTypedef t inside seen d = some (outlines, done)) :
    ∃ o, outlines = [o] ∧ (toDecl t o).kind.isTagged ∧ (toDecl t o).name? = some d.spelling := by
  obtain ⟨mid, hmid⟩ := Option.ne_none_iff_exists'.1 hnew
  obtain ⟨decl, hstripped, rfl⟩ := exists_decl_of_named? hnames
  have hname : nameBehind d (t.decl decl) = d.spelling := if_pos hanonymous
  have halone : ∀ o, withTypedef d (t.decl decl) [o] = [o] := fun o => by
    rw [withTypedef, hanonymous]
    rfl
  rcases hstripped with hstripped | hstripped
  · rw [ofTypedef_of_record hstripped, hname, ofRecord, hmid] at h
    obtain ⟨⟨named, last⟩, hnamed, h⟩ := Option.map_eq_some_iff.1 h
    obtain ⟨⟨inner, last'⟩, -, hnamed⟩ := Option.bind_eq_some_iff.1 hnamed
    cases hnamed
    cases h
    refine ⟨_, halone _, ?_⟩
    rw [toDecl]
    exact ⟨rfl, rfl⟩
  · rw [ofTypedef_of_enum hstripped, hname, ofEnum, hmid] at h
    cases h
    refine ⟨_, halone _, ?_⟩
    rw [toDecl]
    exact ⟨rfl, rfl⟩

/-- A keyword or a scope in front of a type does not change what it refers to. -/
theorem leaf_stripped (type : CursorType) : type.stripped.leaf = type.leaf := by
  cases type with
  | elaborated named =>
    show named.leaf = _
    rw [CursorType.leaf]
  | _ => rfl

/-- **A typedef of what is done is an alias and nothing else.** -/
theorem ofTypedef_of_done (hdirect : t.RefersDirectly target e.underlying)
    (hdone : mark? seen target = none) :
    ofTypedef t inside seen e = some ([.typedef e], seen) := by
  obtain ⟨decl, hleaf, rfl⟩ := hdirect
  rw [← leaf_stripped] at hleaf
  by_cases hrecord : ∃ own, e.underlying.stripped = .record own
  · obtain ⟨own, hstripped⟩ := hrecord
    rw [hstripped] at hleaf
    rcases hleaf with hleaf | hleaf
    · cases hleaf
      rw [ofTypedef_of_record hstripped, ofRecord, hdone]
      exact congrArg some (Prod.ext (withTypedef_nil e _) rfl)
    · cases hleaf
  · by_cases henum : ∃ own, e.underlying.stripped = .enum own
    · obtain ⟨own, hstripped⟩ := henum
      rw [hstripped] at hleaf
      rcases hleaf with hleaf | hleaf
      · cases hleaf
      · cases hleaf
        rw [ofTypedef_of_enum hstripped, ofEnum, hdone]
        exact congrArg some (Prod.ext (withTypedef_nil e _) rfl)
    · exact ofTypedef_of_alias (fun own heq => hrecord ⟨own, heq⟩) fun own heq => henum ⟨own, heq⟩

end Outline

/-- **A type that has no name of its own is reached through the typedef that names it, and in no
other way.** The typedef gives it its name; a reference bears this name exactly if it refers to the
typedef. Any type that refers to it directly, behind whatever pointers and arrays, cannot be
converted: what uses such a type is neither registered nor indexed, and a further typedef of it is
reported. -/
theorem unnamed_type_reached_iff (t : CursorTree) {d target : Cursor}
    (hnames : t.named? d = some target) (hanonymous : target.isAnonymous)
    (hspelling : d.spelling ≠ "") :
    (∀ inside seen outlines done, Outline.mark? seen target ≠ none →
      Outline.ofTypedef t inside seen d = some (outlines, done) →
      ∃ o, outlines = [o] ∧ (Outline.toDecl t o).kind.isTagged ∧
        (Outline.toDecl t o).name? = some d.spelling) ∧
    (∀ type, t.RefersDirectly target type ∨ t.RefersThrough d type →
      ∃ ref, (t.type type).leaf = .named ref ∧
        (ref.name = d.spelling ↔ t.RefersThrough d type) ∧
        ∀ (c : Converter) asParam,
          c.type asParam (t.type type) ≠ .error .anonymousReference ↔ t.RefersThrough d type) ∧
    (∀ type, t.RefersDirectly target type → ∀ e : Decl, e.Uses (t.type type) →
      ∀ (s : Session) p,
        (s.visit p e).types = s.types ∧ (s.visit p e).symbols = s.symbols) ∧
    ∀ e, t.RefersDirectly target e.underlying →
      (∀ inside seen, Outline.mark? seen target = none →
        Outline.ofTypedef t inside seen e = some ([.typedef e], seen)) ∧
      ∀ (s : Session) p,
        s.IsTypedef (Outline.toDecl t (.typedef e)) e.spelling (t.type e.underlying) →
        s.rules.typeName e.spelling ∉ s.types →
        s.visit p (Outline.toDecl t (.typedef e)) =
          s.skip p (Outline.toDecl t (.typedef e)) (p.qualified e.spelling)
            .anonymousReference := by
  refine ⟨?_, ?_, ?_, ?_⟩
  · exact fun inside seen outlines done => Outline.ofTypedef_of_named hnames hanonymous
  · rintro type (hdirect | hthrough)
    · have hnot : ¬ t.RefersThrough d type := by
        rintro ⟨decl, htypedef, -⟩
        obtain ⟨own, hown | hown, -⟩ := hdirect
        · cases htypedef.symm.trans hown
        · cases htypedef.symm.trans hown
      obtain ⟨ref, hleaf, hname⟩ := CursorTree.leaf_of_refersDirectly hdirect hanonymous
      refine ⟨ref, hleaf, iff_of_false ?_ hnot, fun c asParam => iff_of_false ?_ hnot⟩
      · rw [hname]
        exact hspelling.symm
      · exact not_not.2 (CursorTree.type_of_refersDirectly hdirect hanonymous c asParam)
    · obtain ⟨ref, hleaf, hname⟩ := CursorTree.leaf_of_refersThrough hthrough
      exact ⟨ref, hleaf, iff_of_true hname hthrough, fun c asParam =>
        iff_of_true (CursorTree.type_of_refersThrough hthrough hspelling c asParam) hthrough⟩
  · intro type hdirect e huses
    exact Session.visit_of_uses huses (CursorTree.type_of_refersDirectly hdirect hanonymous)
  · intro e hdirect
    refine ⟨fun inside seen => Outline.ofTypedef_of_done hdirect, ?_⟩
    intro s p htypedef hfree
    exact Session.visit_of_failsAt (.typedef htypedef hfree
      (CursorTree.type_of_refersDirectly hdirect hanonymous s.converter false))

/-- An anonymous struct. -/
def nodeStruct : Cursor where
  kind := .tagged .struct
  id? := some "struct"
  usr := "c:@SA@node"
  isAnonymous := true
  location := { file := some "node.h" }
  children := [{ kind := .field, spelling := "x", type := .scalar .int }]

/-- The typedef that names the struct. -/
def nodeTypedef : Cursor where
  kind := .typedef
  id? := some "node"
  spelling := "node"
  location := { file := some "node.h" }
  underlying := .elaborated (.record (some "struct"))

/-- `typedef const struct { int x; } node, …;` with a second typedef of some type. The qualifier
keeps the compiler from giving the struct the name of its typedef. -/
def nodeTree (type : CursorType) : CursorTree where
  root :=
    { kind := .unit
      children := [nodeStruct, nodeTypedef,
        { kind := .typedef
          spelling := "list"
          location := { file := some "node.h" }
          underlying := type }] }

theorem unnamed_type_reached_iff_node :
    let t := nodeTree (.pointer (.typedef (some "node")))
    t.named? nodeTypedef = some nodeStruct ∧ nodeStruct.isAnonymous ∧ nodeTypedef.spelling ≠ "" ∧
    t.RefersThrough nodeTypedef (.pointer (.typedef (some "node"))) ∧
    ∀ (c : Converter) asParam,
      c.type asParam (t.type (.pointer (.typedef (some "node")))) ≠ .error .anonymousReference := by
  intro t
  have hnames : t.named? nodeTypedef = some nodeStruct := rfl
  have hspelling : nodeTypedef.spelling ≠ "" := by decide
  have hthrough : t.RefersThrough nodeTypedef (.pointer (.typedef (some "node"))) :=
    ⟨some "node", rfl, rfl⟩
  obtain ⟨-, hrefers, -⟩ := unnamed_type_reached_iff t hnames rfl hspelling
  obtain ⟨ref, -, -, hconverts⟩ := hrefers _ (.inr hthrough)
  exact ⟨hnames, rfl, hspelling, hthrough, fun c asParam => (hconverts c asParam).2 hthrough⟩

/-- `typedef const struct { int x; } node, *list;` declares two types. The second is not bound. -/
theorem list_of_unnamed_node :
    let t := nodeTree (.pointer (.elaborated (.record (some "struct"))))
    t.named? nodeTypedef = some nodeStruct ∧ nodeStruct.isAnonymous ∧
    ∃ decls, t.decls? = some decls ∧
      decls.map Decl.name? = [some "node", some "list"] ∧
      ((Session.start {}).process ⟨"node.h", decls⟩).types.keys = ["Node"] ∧
      ((Session.start {}).process ⟨"node.h", decls⟩).skipped =
        [⟨"list", "node.h", .anonymousReference⟩] :=
  ⟨rfl, rfl, _, rfl, rfl, by decide +kernel, by decide +kernel⟩

end HeaderBindings
