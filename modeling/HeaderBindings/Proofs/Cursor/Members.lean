import HeaderBindings.Proofs.Cursor.Termination

/-!
# Members and definitions

A record and an enumeration are lowered where they are met first, which may be a declaration without
members. A record takes its members from its definition wherever that stands, while an enumeration
takes them from the cursor at which it is met. So no record loses a field, and an enumeration keeps
its enumerators if and only if the cursor at which it is met first has those of its definition
(`members_of_definition_iff`).

Which cursor is met first is a question of the order of cursors, and of typedefs in front of a tag.
It matters for the place and the USR of a declaration, and for enumerations also for their contents,
since only records are followed to their definitions. The condition in the theorem is therefore on
enumerations alone, and it names the two cursors whose enumerators are compared.
-/

namespace HeaderBindings

namespace CursorTree

/-- The definition of what a cursor declares, if the compiler tells of one. -/
def definition? (t : CursorTree) (c : Cursor) : Option Cursor :=
  match c.definition with
  | .implied => some c
  | .absent => none
  | .explicit id => (t.find? id).map (·.cursor)

/-- A definition of which the compiler tells is what a cursor is taken to be defined by. -/
theorem definition_eq {t : CursorTree} {c d : Cursor} (h : t.definition? c = some d) :
    t.definition c = d := by
  unfold definition? at h
  unfold definition
  split at h
  · next hlink =>
    rw [hlink]
    exact Option.some.inj h
  · cases h
  · next id hlink =>
    rw [hlink]
    dsimp only
    rw [h, Option.getD_some]

/-- The compiler tells of the same definition, or of none, for all declarations of a record or an
enumeration. -/
def SharesDefinitions (t : CursorTree) : Prop :=
  ∀ c ∈ t.root.all, ∀ d ∈ t.root.all, c.isTagged → d.isTagged → c.usr = d.usr →
    t.definition? c = t.definition? d

/-- Definitions that depend on the USR are shared. -/
theorem SharesDefinitions.of_usr {t : CursorTree} (definitionOf : String → Option Cursor)
    (h : ∀ c ∈ t.root.all.filter Cursor.isTagged, t.definition? c = definitionOf c.usr) :
    t.SharesDefinitions := by
  intro c hc d hd hctagged hdtagged husr
  rw [h c (List.mem_filter.2 ⟨hc, hctagged⟩), h d (List.mem_filter.2 ⟨hd, hdtagged⟩), husr]

end CursorTree

/-- A record has the fields, or an enumeration has the enumerators, of a definition. -/
def DeclKind.HasMembersOf (t : CursorTree) (definition : Cursor) : DeclKind → Prop
  | .record _ _ fields => fields = t.fields definition
  | .enum _ items => items = CursorTree.enumerators definition
  | _ => False

namespace Outline

variable {t : CursorTree} {seen done : Seen} {outlines : List Outline} {c target : Cursor}

/-! ### Where members come from

The outline of a record carries its definition, and so do the declarations that are made of it. The
rules of outlines say where both come from, so the induction is on derivations.
-/

/-- A record or an enumeration is lowered from a cursor of the tree, and a record with the members
of the definition of that cursor. -/
inductive Defined (t : CursorTree) : Outline → Prop where
  | record {name c inner} : c ∈ t.root.all → Defined t (.record name c (t.definition c) inner)
  | enum {name c} : c ∈ t.root.all → Defined t (.enum name c)

theorem Defined.mem_all {o : Outline} (h : Defined t o) : o.cursor ∈ t.root.all := by
  cases h with
  | record hc => exact hc
  | enum hc => exact hc

/-- The cursors that are outlined next. -/
def Subject.cursors : Subject → List Cursor
  | .neighbours _ cs => cs
  | .cursor _ c _ => [c]
  | .record _ c => [c]
  | .enum _ c => [c]

/-- The typedef in front of which a tag is lowered is no record and no enumeration. -/
theorem taggedAll_withTypedef (c target : Cursor) (named : List Outline) :
    taggedAll (withTypedef c target named) = taggedAll named := by
  unfold withTypedef
  split
  · rfl
  · rw [taggedAll_append, taggedAll, taggedAll, tagged, List.append_nil, List.append_nil]

/-- **Every record of an outline has the members of its definition**, by induction on the
derivation. -/
theorem Outlined.defined (husrs : t.TaggedHaveUsrs) {subject : Subject}
    (h : Outlined t subject seen outlines done)
    (hsubject : ∀ c ∈ subject.cursors, c ∈ t.root.all) :
    ∀ o ∈ taggedAll outlines, Defined t o := by
  have hchildren : ∀ c ∈ t.root.all, ∀ d ∈ (Subject.inside c).cursors, d ∈ t.root.all :=
    fun _ hc _ hd => Cursor.mem_all_of_mem_children hc hd
  have hsingle : ∀ {c : Cursor}, c ∈ t.root.all → ∀ d ∈ [c], d ∈ t.root.all := by
    intro c hc d hd
    rw [List.mem_singleton.1 hd]
    exact hc
  induction h with
  | nil | unnamedRecord | waitingEnum | function | outOfPlace | typedef | part | unknown |
    doneRecord | doneEnum =>
    intro o ho
    cases ho
  | passed _ _ ih => exact ih fun c hc => hsubject c (List.mem_cons_of_mem _ hc)
  | cons _ _ _ ihfirst ihothers =>
    intro o ho
    rw [taggedAll_append] at ho
    rcases List.mem_append.1 ho with ho | ho
    · exact ihfirst (hsingle (hsubject _ List.mem_cons_self)) o ho
    · exact ihothers (fun c hc => hsubject c (List.mem_cons_of_mem _ hc)) o ho
  | scope _ _ ih | linkage _ _ ih =>
    intro o ho
    rw [taggedAll, tagged, taggedAll, List.append_nil] at ho
    exact ih (hchildren _ (hsubject _ List.mem_cons_self)) o ho
  | namedRecord _ _ _ _ ih | namedEnum _ _ _ ih | unnamedEnum _ _ _ _ ih =>
    exact ih hsubject
  | typedefRecord hkind hstripped _ ih | typedefEnum hkind hstripped _ ih =>
    rw [taggedAll_withTypedef]
    refine ih (hsingle (mem_all_of_named husrs (hsubject _ List.mem_cons_self) ?_).1)
    rw [CursorTree.named?, hkind, hstripped]
  | @newRecord name c _ _ _ _ _ _ ih =>
    have hc := hsubject c List.mem_cons_self
    intro o ho
    rw [taggedAll, tagged, taggedAll, List.append_nil] at ho
    rcases List.mem_cons.1 ho with rfl | ho
    · exact .record hc
    · exact ih (hchildren _ (CursorTree.definition_mem_all hc)) o ho
  | @newEnum name c =>
    intro o ho
    rw [taggedAll, tagged, taggedAll, List.append_nil, List.mem_singleton] at ho
    rw [ho]
    exact .enum (hsubject c List.mem_cons_self)

/-- A record has the members of its definition, and an enumeration has them if the cursor from which
it is lowered has them. -/
theorem Defined.hasMembersOf_iff {o : Outline} (h : Defined t o) {definition : Cursor}
    (hdefinition : t.definition? o.cursor = some definition) :
    (toDecl t o).kind.HasMembersOf t definition ↔ ∀ name first, o = .enum name first →
      CursorTree.enumerators first = CursorTree.enumerators definition := by
  cases h with
  | @record name c inner =>
    have heq : t.definition c = definition := CursorTree.definition_eq hdefinition
    rw [toDecl, heq]
    exact iff_of_true rfl fun _ _ heq => nomatch heq
  | @enum name c =>
    rw [toDecl]
    constructor
    · intro hmembers name first heq
      cases heq
      exact hmembers
    · exact fun h => h name c rfl

/-- **A record has the members of its definition, and an enumeration those of its first
declaration.**

If all declarations of a record or an enumeration share a USR and a definition, a tree is lowered to
declarations in which no USR occurs twice. Each record among them has the fields of its definition,
in order, whatever declarations and typedefs of it come first; and each enumeration has the
enumerators of its definition, with their values, if and only if the cursor at which it is met first
has them. -/
theorem members_of_definition_iff (husrs : t.TaggedHaveUsrs) (hshares : t.SharesDefinitions) :
    ∃ outlines, ofTree? t = some outlines ∧ t.decls? = some (toDecls t outlines) ∧
      Decl.taggedAll (toDecls t outlines) = (taggedAll outlines).map (toDecl t) ∧
      (usrs outlines).Nodup ∧
      ∀ o ∈ taggedAll outlines, o.cursor.isTagged → ∀ d ∈ t.root.all, d.isTagged →
        d.usr = o.cursor.usr → ∀ definition, t.definition? d = some definition →
        ((toDecl t o).kind.HasMembersOf t definition ↔ ∀ name first, o = .enum name first →
          CursorTree.enumerators first = CursorTree.enumerators definition) := by
  obtain ⟨outlines, done, houtlined, htree, hdecls, hnodup⟩ := exists_outlined_root husrs
  have hdefined : ∀ o ∈ taggedAll outlines, Defined t o :=
    houtlined.defined husrs fun c hc =>
      Cursor.mem_all_of_mem_children (Cursor.mem_all_self t.root) hc
  refine ⟨outlines, htree, hdecls, taggedAll_toDecls t outlines, hnodup, ?_⟩
  intro o ho htagged d hd hdtagged husr definition hdefinition
  have hown : t.definition? o.cursor = some definition := by
    rw [hshares _ (hdefined o ho).mem_all d hd htagged hdtagged husr.symm]
    exact hdefinition
  exact (hdefined o ho).hasMembersOf_iff hown

/-! ### Headers with both

A struct and an enumeration, each with a declaration beside its definition. In one header the
enumeration is defined where it is met first, and in the other one it is not.
-/

/-- An enumerator of the header `paint.h`. -/
def shadeItem (name : String) (value : Int64) : Cursor where
  kind := .enumerator
  spelling := name
  value := value

/-- The definition of an enumeration. -/
def shadeEnum : Cursor where
  kind := .tagged .enum
  id? := some "shade"
  spelling := "shade"
  usr := "c:@E@shade"
  location := { file := some "paint.h" }
  children := [shadeItem "PALE" 1, shadeItem "DARK" 4]

/-- A declaration of the enumeration without its enumerators. -/
def shadeForward : Cursor where
  kind := .tagged .enum
  spelling := "shade"
  usr := "c:@E@shade"
  location := { file := some "paint.h" }
  definition := .explicit "shade"

/-- The definition of a struct. -/
def tinStruct : Cursor where
  kind := .tagged .struct
  id? := some "tin"
  spelling := "tin"
  usr := "c:@S@tin"
  location := { file := some "paint.h" }
  children := [{ kind := .field, spelling := "size", type := .scalar .int },
    { kind := .field, spelling := "shade", type := .elaborated (.enum (some "shade")) }]

/-- A declaration of the struct without its fields. -/
def tinForward : Cursor where
  kind := .tagged .struct
  id? := some "tinForward"
  spelling := "tin"
  usr := "c:@S@tin"
  location := { file := some "paint.h" }
  definition := .explicit "tin"

/-- A typedef of the struct, by the declaration without fields. -/
def tinTypedef : Cursor where
  kind := .typedef
  spelling := "Tin"
  location := { file := some "paint.h" }
  underlying := .elaborated (.record (some "tinForward"))

/-- A header in which the typedef of the struct comes first, and the definition of the enumeration
before its other declaration. -/
def paintTree : CursorTree where
  root :=
    { kind := .unit
      children := [tinTypedef, shadeEnum, shadeForward, tinForward, tinStruct] }

/-- The definition of each of them, by its USR. -/
def paintDefinition (usr : String) : Option Cursor :=
  if usr = "c:@E@shade" then some shadeEnum else some tinStruct

/-- The struct in the outline of the header: met at its typedef, with the fields of
its definition. -/
def tinOutline : Outline := .record "tin" tinForward tinStruct []

theorem members_of_definition_paint :
    paintTree.TaggedHaveUsrs ∧ paintTree.SharesDefinitions ∧
      ofTree? paintTree =
        some [tinOutline, .typedef tinTypedef, .enum (some "shade") shadeEnum] ∧
      (toDecl paintTree tinOutline).kind.HasMembersOf paintTree tinStruct ∧
      (toDecl paintTree (.enum (some "shade") shadeEnum)).kind.HasMembersOf paintTree
        shadeEnum := by
  have husrs : paintTree.TaggedHaveUsrs := ⟨by decide +kernel, by decide +kernel⟩
  have hshares : paintTree.SharesDefinitions := by
    have htagged : paintTree.root.all.filter Cursor.isTagged =
        [shadeEnum, shadeForward, tinForward, tinStruct] := rfl
    apply CursorTree.SharesDefinitions.of_usr paintDefinition
    rw [htagged]
    simp only [List.forall_mem_cons]
    exact ⟨rfl, rfl, rfl, rfl, fun _ hc => nomatch hc⟩
  obtain ⟨outlines, htree, -, -, -, hmembers⟩ := members_of_definition_iff husrs hshares
  have hcomputed : ofTree? paintTree =
      some [tinOutline, .typedef tinTypedef, .enum (some "shade") shadeEnum] := by rfl
  obtain rfl := Option.some.inj (htree.symm.trans hcomputed)
  have hdeclared : tinStruct ∈ paintTree.root.all ∧ shadeForward ∈ paintTree.root.all := by
    have hall : [shadeForward, tinStruct] ⊆ paintTree.root.children := by simp [paintTree]
    have hchild := fun c hc =>
      Cursor.mem_all_of_mem_children (Cursor.mem_all_self paintTree.root) (e := c) hc
    exact ⟨hchild _ (hall (by simp)), hchild _ (hall (by simp))⟩
  refine ⟨husrs, hshares, hcomputed, ?_, ?_⟩
  · exact (hmembers tinOutline (by simp [taggedAll, tagged, tinOutline]) rfl tinStruct hdeclared.1
      rfl rfl tinStruct rfl).2 fun _ _ heq => nomatch heq
  · refine (hmembers (.enum (some "shade") shadeEnum) (by simp [taggedAll, tagged, tinOutline]) rfl
      shadeForward hdeclared.2 rfl rfl shadeEnum rfl).2 ?_
    intro name first heq
    cases heq
    rfl

/-- The same enumeration, declared without its enumerators first. -/
def shadeTree : CursorTree where
  root := { kind := .unit, children := [shadeForward, shadeEnum] }

theorem shade_loses_enumerators :
    shadeTree.TaggedHaveUsrs ∧ shadeTree.SharesDefinitions ∧
      shadeTree.definition? shadeForward = some shadeEnum ∧
      shadeTree.decls? = some [CursorTree.declAt shadeForward (.enum (some "shade") []) []] ∧
      ¬ (DeclKind.enum (some "shade") []).HasMembersOf shadeTree shadeEnum := by
  have hshares : shadeTree.SharesDefinitions := by
    have htagged : shadeTree.root.all.filter Cursor.isTagged = [shadeForward, shadeEnum] := rfl
    apply CursorTree.SharesDefinitions.of_usr paintDefinition
    rw [htagged]
    simp only [List.forall_mem_cons]
    exact ⟨rfl, rfl, fun _ hc => nomatch hc⟩
  refine ⟨⟨by decide +kernel, by decide +kernel⟩, hshares, rfl, rfl, ?_⟩
  intro h
  cases h

end Outline

end HeaderBindings
