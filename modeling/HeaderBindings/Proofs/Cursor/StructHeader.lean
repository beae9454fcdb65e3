import HeaderBindings.Conversion
import HeaderBindings.Cursor.Lowering
import HeaderBindings.Proofs.Cursor.Fuel

/-!
# Headers of structs

A header that declares nothing but structs, each forward any number of times and fully at most once,
with fields of builtin types, pointers to these and pointers to structs (`StructHeader`). Such a
header is always lowered, to one declaration for every struct: at the place of the first declaration
and with the fields of the definition (`StructHeader.decls?_eq`).

The conditions of `StructHeader` are those that a compiler keeps by itself, but for the choice of
declarations: definitions are known from forward declarations by their USR, there is one of them at
most, and a forward declaration holds nothing. The target names are kept apart by a condition of
their own (`StructHeader.apart`), since two structs with different names in C may be trimmed to one.

In such a header a struct may be declared in one place, defined in another and pointed to before
either, which is all that matters where one asks which structs are registered, and with which
fields.
-/

namespace HeaderBindings

/-! ### Fields

The type of a field is reported behind keywords, scopes and attributes, and sometimes only as a
canonical form. `CursorType.core` looks behind all of these, as the frontend does, and `fieldKind?`
tells the three kinds of fields apart by what is left.
-/

/-- The type behind all keywords, scopes and attributes, in its canonical form. -/
def CursorType.core : CursorType → CursorType
  | elaborated named => named.core
  | attributed modified => modified.core
  | unexposed spelling canonical =>
    match canonical with
    | none => unexposed spelling none
    | some (unexposed inner further) => unexposed spelling (some (unexposed inner further))
    | some canonical => canonical.core
  | type => type

/-- What a field of a struct may be: a value of a builtin type, a pointer to one, or a pointer to a
struct. The builtin types are given by their target types. -/
inductive FieldKind where
  | value (target : TargetType)
  | pointer (target : TargetType)
  | struct (r : Cursor)

/-- The target type of a field. -/
def FieldKind.target (rules : PrefixRules) : FieldKind → TargetType
  | value target => target
  | pointer target => Converter.pointerTo target
  | struct r => .pointer (.named (rules.typeName r.spelling))

namespace CursorTree

/-- The target type of a builtin type. -/
def builtinTarget? : CursorType → Option TargetType
  | .scalar b => Catalog.builtin? b
  | .complex elem => Catalog.builtin? (complexOf elem)
  | _ => none

/-- What a field of a given type is. -/
def fieldKind? (t : CursorTree) (type : CursorType) : Option FieldKind :=
  match type.core with
  | .pointer pointee =>
    match pointee.core with
    | .record decl => some (.struct (t.decl decl))
    | pointee => (builtinTarget? pointee).map .pointer
  | type => (builtinTarget? type).map .value

/-- The type behind keywords, scopes and attributes is taken over in the place of a type. -/
theorem type_core (t : CursorTree) : ∀ type : CursorType, t.type type.core = t.type type
  | .elaborated named => by rw [CursorType.core, CursorTree.type, type_core t named]
  | .attributed modified => by rw [CursorType.core, CursorTree.type, type_core t modified]
  | .unexposed spelling none => by rw [CursorType.core]
  | .unexposed spelling (some canonical) => by
    have hcanonical := type_core t canonical
    cases canonical with
    | unexposed inner further => rfl
    | _ => exact hcanonical
  | .scalar _ | .complex _ | .pointer _ | .array _ _ | .function _ _ _ | .typedef _ | .record _
  | .enum _ | .other _ => rfl

end CursorTree

/-- Whether a cursor is the definition of what it declares. -/
def Cursor.isDefinition (c : Cursor) : Bool :=
  match c.definition with
  | .implied => true
  | .absent => false
  | .explicit id => c.id? = some id

/-- Whether a cursor declares nothing by itself where it stands in a struct. -/
def CursorKind.isMember : CursorKind → Bool
  | scope | linkage | tagged _ | function _ | typedef => false
  | enumerator | field | accessLabel | unit | other _ => true

/-- The cursors of the fields of a struct, in order. -/
def Cursor.fields (c : Cursor) : List Cursor := c.children.filter fun child => child.kind = .field

/-- A header whose declarations are structs with names of their own, whose fields are of builtin
types, pointers to these, and pointers to structs of the header. -/
structure StructHeader (t : CursorTree) (rules : PrefixRules) : Prop where
  struct : ∀ c ∈ t.root.children, c.kind = .tagged .struct ∧ c.location.file.isSome
  named : ∀ c ∈ t.root.children, c.isAnonymous = false ∧ c.spelling ≠ "" ∧
    Catalog.typedef? (rules.trim c.spelling) = none
  /-- Declarations of the same struct are told by their USR. -/
  usr : ∀ c ∈ t.root.children, c.usr ≠ ""
  alike : ∀ c ∈ t.root.children, ∀ d ∈ t.root.children, c.usr = d.usr → c.spelling = d.spelling
  apart : ∀ c ∈ t.root.children, ∀ d ∈ t.root.children,
    rules.typeName c.spelling = rules.typeName d.spelling → c.usr = d.usr
  /-- The definition of a struct is known to all its declarations, so there is at most one. -/
  defined : ∀ c ∈ t.root.children, ∀ d ∈ t.root.children, d.usr = c.usr → d.isDefinition →
    t.definition c = d
  undefined : ∀ c ∈ t.root.children,
    (∀ d ∈ t.root.children, d.usr = c.usr → ¬ d.isDefinition) → c.definition = .absent
  /-- A forward declaration holds nothing. -/
  forward : ∀ c ∈ t.root.children, ¬ c.isDefinition → c.children = []
  members : ∀ c ∈ t.root.children, ∀ m ∈ c.children, m.kind.isMember
  fields : ∀ c ∈ t.root.children, ∀ f ∈ c.fields, ∃ kind, t.fieldKind? f.type = some kind ∧
    ∀ r, kind = .struct r → r ∈ t.root.children

namespace StructHeader

open Outline

variable {t : CursorTree} {rules : PrefixRules}

/-- The definition of a declared struct, or its only declarations, stand in the header. -/
theorem definition_mem (h : StructHeader t rules) {c : Cursor} (hc : c ∈ t.root.children) :
    t.definition c ∈ t.root.children := by
  by_cases hdefined : ∃ d ∈ t.root.children, d.usr = c.usr ∧ d.isDefinition
  · obtain ⟨d, hd, husr, hdefinition⟩ := hdefined
    rwa [h.defined c hc d hd husr hdefinition]
  · have habsent : c.definition = .absent :=
      h.undefined c hc fun d hd husr hdefinition => hdefined ⟨d, hd, husr, hdefinition⟩
    rwa [CursorTree.definition, habsent]

/-- All declarations of a struct have the same fields behind them. -/
theorem fields_definition (h : StructHeader t rules) {c d : Cursor} (hc : c ∈ t.root.children)
    (hd : d ∈ t.root.children) (husr : c.usr = d.usr) :
    (t.definition c).fields = (t.definition d).fields := by
  by_cases hdefined : ∃ e ∈ t.root.children, e.usr = c.usr ∧ e.isDefinition
  · obtain ⟨e, he, heq, hdefinition⟩ := hdefined
    rw [h.defined c hc e he heq hdefinition, h.defined d hd e he (heq.trans husr) hdefinition]
  · -- a struct that is never defined has no fields at all
    have hnone : ∀ b ∈ t.root.children, b.usr = c.usr → (t.definition b).fields = [] := by
      intro b hb heq
      have hforward : ¬ b.isDefinition := fun hdefinition => hdefined ⟨b, hb, heq, hdefinition⟩
      have habsent : b.definition = .absent :=
        h.undefined b hb fun e he hebusr hdefinition =>
          hdefined ⟨e, he, hebusr.trans heq, hdefinition⟩
      rw [CursorTree.definition, habsent]
      dsimp only
      rw [Cursor.fields, h.forward b hb hforward]
      rfl
    rw [hnone c hc rfl, hnone d hd husr.symm]

/-! ### Lowering

The first declaration of a struct is outlined with the members of its definition, and its USR is
done then. So each later declaration is left out, be it a forward declaration or the definition
itself. Of the members, fields and labels are left out of the outline, and others are outlined as
unknown.
-/

/-- The outline of a member of a struct: fields and labels are left out. -/
def memberOutlines (m : Cursor) : List Outline :=
  if m.kind = .field ∨ m.kind = .accessLabel then [] else [.unknown m]

/-- The outline of the members of a struct. None of it stands for anything. -/
def unknownMembers (ms : List Cursor) : List Outline :=
  (ms.filter fun m => m.location.file.isSome).flatMap memberOutlines

/-- The declaration for which the first declaration of a struct stands. -/
def structDecl (t : CursorTree) (c : Cursor) : Decl :=
  CursorTree.declAt (t.definition c) (.record c.spelling .struct (t.fields (t.definition c)))
    (toDecls t (unknownMembers (t.definition c).children))

/-- The declarations of the structs among some cursors, after some earlier ones. -/
def structDecls (t : CursorTree) : (earlier : List Cursor) → List Cursor → List Decl
  | _, [] => []
  | earlier, c :: rest =>
    (if c.usr ∈ earlier.map Cursor.usr then [] else [structDecl t c])
      ++ structDecls t (earlier ++ [c]) rest

/-- A member of a struct is outlined by itself and does no USR. -/
theorem ofCursor_member {inside : Seen → Cursor → Result} {parent m : Cursor} {later : List Cursor}
    (hmember : m.kind.isMember) (seen : Seen) :
    ofCursor t inside seen parent m later = some (memberOutlines m, seen) := by
  rw [ofCursor, memberOutlines]
  cases hkind : m.kind with
  | scope | linkage | tagged _ | function _ | typedef =>
    rw [hkind] at hmember
    cases hmember
  | _ => rfl

/-- The members of a struct add nothing to what is done. -/
theorem ofCursors_members {inside : Seen → Cursor → Result} {parent : Cursor} {ms : List Cursor}
    (hmembers : ∀ m ∈ ms, m.kind.isMember) (seen : Seen) :
    ofCursors t inside parent seen ms = some (unknownMembers ms, seen) := by
  induction ms with
  | nil => rfl
  | cons m rest ih =>
    have hrest := ih fun m' hm' => hmembers m' (List.mem_cons_of_mem m hm')
    have hmember := hmembers m List.mem_cons_self
    rw [unknownMembers, List.filter_cons]
    cases hfile : m.location.file with
    | none =>
      rw [ofCursors_cons_of_no_file rest seen hfile, hrest]
      rfl
    | some file =>
      have hsome : m.location.file.isSome := by rw [hfile]; rfl
      exact (ofCursors_cons_eq_some_iff hsome).2
        ⟨memberOutlines m, seen, unknownMembers rest, ofCursor_member hmember seen, hrest, rfl⟩

/-- A struct that is done is left out. -/
theorem ofCursor_of_mem (h : StructHeader t rules) {inside : Seen → Cursor → Result}
    {c : Cursor} (hc : c ∈ t.root.children) {seen : Seen} (hdone : c.usr ∈ seen)
    (later : List Cursor) : ofCursor t inside seen t.root c later = some ([], seen) := by
  rw [ofCursor, (h.struct c hc).1]
  dsimp only
  rw [(h.named c hc).1, if_neg Bool.false_ne_true, ofRecord, mark?, if_neg (h.usr c hc),
    if_pos hdone]

/-- A struct that is not done is outlined with the members of its definition. -/
theorem ofCursor_of_not_mem (h : StructHeader t rules) (fuel : Nat) {c : Cursor}
    (hc : c ∈ t.root.children) {seen : Seen} (hdone : c.usr ∉ seen) (later : List Cursor) :
    ofCursor t (inside t (fuel + 1)) seen t.root c later =
      some ([.record c.spelling c (t.definition c) (unknownMembers (t.definition c).children)],
        c.usr :: seen) := by
  have hinside : inside t (fuel + 1) (c.usr :: seen) (t.definition c) =
      some (unknownMembers (t.definition c).children, c.usr :: seen) :=
    ofCursors_members (h.members _ (h.definition_mem hc)) _
  rw [ofCursor, (h.struct c hc).1]
  dsimp only
  rw [(h.named c hc).1, if_neg Bool.false_ne_true, ofRecord, mark?, if_neg (h.usr c hc),
    if_neg hdone]
  dsimp only
  rw [hinside]
  rfl

/-- The outline of a struct stands for its declaration. -/
theorem toDecls_record (h : StructHeader t rules) {c : Cursor} (hc : c ∈ t.root.children)
    (others : List Outline) :
    toDecls t (.record c.spelling c (t.definition c) (unknownMembers (t.definition c).children) ::
      others) = structDecl t c :: toDecls t others := by
  have htag : CursorTree.recordTagOf (t.definition c) = .struct := by
    rw [CursorTree.recordTagOf, CursorTree.tagOf, (h.struct _ (h.definition_mem hc)).1]
  rw [toDecls, toDecl, htag]
  rfl

/-- **The first declaration of a struct stands for it, and later ones are left out.** -/
theorem ofCursors_eq (h : StructHeader t rules) (fuel : Nat) {earlier rest : List Cursor}
    (hsub : rest ⊆ t.root.children) {seen : Seen}
    (hseen : ∀ u, u ∈ seen ↔ u ∈ earlier.map Cursor.usr) :
    ∃ outlines last, ofCursors t (inside t (fuel + 1)) t.root seen rest = some (outlines, last) ∧
      toDecls t outlines = structDecls t earlier rest := by
  induction rest generalizing earlier seen with
  | nil => exact ⟨[], seen, rfl, rfl⟩
  | cons c rest ih =>
    have hc : c ∈ t.root.children := hsub List.mem_cons_self
    have hrest : rest ⊆ t.root.children := fun d hd => hsub (List.mem_cons_of_mem c hd)
    have hfile := (h.struct c hc).2
    have hnext : ∀ u, u ∈ (earlier ++ [c]).map Cursor.usr ↔ u = c.usr ∨ u ∈ seen := by
      intro u
      rw [hseen, List.map_append, List.mem_append, List.map_singleton, List.mem_singleton, or_comm]
    by_cases hdone : c.usr ∈ seen
    · have hsame : ∀ u, u ∈ seen ↔ u ∈ (earlier ++ [c]).map Cursor.usr := by
        intro u
        rw [hnext, or_iff_right_of_imp (fun hu => hu ▸ hdone)]
      obtain ⟨others, last, hothers, hdecls⟩ := ih hrest hsame
      refine ⟨[] ++ others, last, ?_, ?_⟩
      · exact (ofCursors_cons_eq_some_iff hfile).2
          ⟨[], seen, others, h.ofCursor_of_mem hc hdone rest, hothers, rfl⟩
      · rw [structDecls, if_pos ((hseen _).1 hdone), List.nil_append, hdecls]
        rfl
    · have hmore : ∀ u, u ∈ c.usr :: seen ↔ u ∈ (earlier ++ [c]).map Cursor.usr := by
        intro u
        rw [hnext, List.mem_cons]
      obtain ⟨others, last, hothers, hdecls⟩ := ih hrest hmore
      refine ⟨_, last, (ofCursors_cons_eq_some_iff hfile).2
        ⟨_, _, others, h.ofCursor_of_not_mem fuel hc hdone rest, hothers, rfl⟩, ?_⟩
      have hnew : c.usr ∉ earlier.map Cursor.usr := fun hmem => hdone ((hseen _).2 hmem)
      rw [List.singleton_append, h.toDecls_record hc, structDecls, if_neg hnew, hdecls]
      rfl

/-- **A header of structs is lowered to their first declarations.** -/
theorem decls?_eq (h : StructHeader t rules) :
    t.decls? = some (structDecls t [] t.root.children) := by
  obtain ⟨less, hless⟩ : ∃ less, fuel t = less + 2 := by
    have hpositive : 0 < t.root.size := by
      cases t.root
      exact Nat.succ_pos _
    have hfuel : 2 * 1 ≤ fuel t := Nat.mul_le_mul (by omega) (by omega)
    exact ⟨fuel t - 2, by omega⟩
  have hstart : ∀ u, u ∈ ([] : Seen) ↔ u ∈ ([] : List Cursor).map Cursor.usr := fun u => Iff.rfl
  obtain ⟨outlines, last, houtlines, hdecls⟩ := h.ofCursors_eq less (List.Subset.refl _) hstart
  have hinside : inside t (fuel t) [] t.root = some (outlines, last) := by
    rw [hless]
    exact houtlines
  rw [CursorTree.decls?, ofTree?, hinside, ← hdecls]
  rfl

end StructHeader

end HeaderBindings
