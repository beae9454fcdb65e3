import HeaderBindings.Proofs.Cursor.Rules
import HeaderBindings.Proofs.Cursor.ScopePaths
import HeaderBindings.Proofs.Cursor.TaggedOnce

/-!
# Lowering ends

An outline goes from a record to its definition, and from a typedef to the declaration that it
names, which may stand anywhere in the tree. It still comes to an end if all records and
enumerations have USRs: each of these steps marks a USR that was not done, and all others go down
the tree. So every subject has a derivation, and with it an outline (`exists_outlined`), wherever
the definitions stand (`lowering_ends`).
-/

namespace HeaderBindings.Outline

variable {t : CursorTree} {c : Cursor}

/-- **What a cursor holds has an outline**, whatever is done before. -/
theorem exists_outlined (husrs : t.TaggedHaveUsrs) (seen : Seen) (hc : c ∈ t.root.all) :
    ∃ outlines done, Outlined t (.inside c) seen outlines done := by
  obtain ⟨outlines, done, hinside, -, -⟩ :=
    completes_inside husrs (unseen t seen * (t.root.height + 1) + c.height) seen c hc
      (Nat.le_refl _)
  exact ⟨outlines, done, outlined_iff.2 ⟨_, hinside⟩⟩

/-- **A tree has an outline, which is lowered**, and in which no USR occurs twice. -/
theorem exists_outlined_root (husrs : t.TaggedHaveUsrs) :
    ∃ outlines done, Outlined t (.inside t.root) [] outlines done ∧
      ofTree? t = some outlines ∧ t.decls? = some (toDecls t outlines) ∧
      (usrs outlines).Nodup := by
  obtain ⟨outlines, done, hinside, hlowers, -⟩ :=
    completes_inside husrs (fuel t) [] t.root (Cursor.mem_all_self _) (suffices_fuel t)
  have htree : ofTree? t = some outlines := by
    rw [ofTree?, hinside]
    rfl
  refine ⟨outlines, done, outlined_iff.2 ⟨_, hinside⟩, htree, ?_, ?_⟩
  · rw [CursorTree.decls?, htree]
    rfl
  · have hdone := hlowers.nodup List.nodup_nil
    rw [hlowers.done_eq, List.append_nil] at hdone
    exact List.nodup_reverse.1 hdone

/-- **Lowering ends.**

If all records and enumerations of a tree have USRs, the calls with which a tree is outlined form a
finite derivation, from whatever cursor and with whatever USRs done they start. From the root they
give one outline, and the tree is lowered to the declarations of it. The path of scopes around a
declaration to which a type refers is found to its end, if it has one. -/
theorem lowering_ends (husrs : t.TaggedHaveUsrs) :
    (∀ seen, ∀ c ∈ t.root.all, ∃ outlines done, Outlined t (.inside c) seen outlines done) ∧
    (∃ outlines done, Outlined t (.inside t.root) [] outlines done ∧
      (∀ others last, Outlined t (.inside t.root) [] others last →
        outlines = others ∧ done = last) ∧
      t.decls? = some (toDecls t outlines)) ∧
    ∀ decl, t.ParentsEnd (t.declSite decl) →
      t.ScopePath (t.declSite decl) (t.scope (t.declSite decl)) := by
  refine ⟨fun seen c hc => exists_outlined husrs seen hc, ?_, ?_⟩
  · obtain ⟨outlines, done, houtlined, -, hdecls, -⟩ := exists_outlined_root husrs
    exact ⟨outlines, done, houtlined, fun others last h => houtlined.unique h, hdecls⟩
  · exact fun decl h => CursorTree.scopePath_scope h

/-- A typedef of a struct, in the definition of that struct. -/
def loopSelf : Cursor where
  kind := .typedef
  spelling := "self"
  location := { file := some "knot.h" }
  underlying := .elaborated (.record (some "loop"))

/-- A declaration of another struct, in the same definition. It belongs to the header. -/
def knotForward : Cursor where
  kind := .tagged .struct
  id? := some "knotForward"
  spelling := "knot"
  usr := "c:@S@knot"
  location := { file := some "knot.h" }
  semanticParent := .explicit "header"
  definition := .explicit "knot"

def loopStruct : Cursor where
  kind := .tagged .struct
  id? := some "loop"
  spelling := "loop"
  usr := "c:@S@loop"
  location := { file := some "knot.h" }
  children := [loopSelf, knotForward]

/-- A declaration of the first struct, in the definition of the second one. -/
def loopForward : Cursor where
  kind := .tagged .struct
  spelling := "loop"
  usr := "c:@S@loop"
  location := { file := some "knot.h" }
  definition := .explicit "loop"

def knotStruct : Cursor where
  kind := .tagged .struct
  id? := some "knot"
  spelling := "knot"
  usr := "c:@S@knot"
  location := { file := some "knot.h" }
  children := [loopForward]

/-- A header with two structs, each of which declares the other one in its definition. -/
def knotTree : CursorTree where
  root := { kind := .unit, id? := some "header", children := [loopStruct, knotStruct] }

/-- The outline of the header: the second struct comes out inside of the first one. -/
def knotOutline : List Outline :=
  [.record "loop" loopStruct loopStruct
    [.typedef loopSelf, .record "knot" knotForward knotStruct []]]

theorem lowering_ends_knot :
    knotTree.TaggedHaveUsrs ∧
      Outlined knotTree (.inside knotTree.root) [] knotOutline ["c:@S@knot", "c:@S@loop"] ∧
      knotTree.decls? = some (toDecls knotTree knotOutline) ∧
      knotTree.ParentsEnd (knotTree.declSite (some "knotForward")) ∧
      knotTree.ScopePath (knotTree.declSite (some "knotForward")) [] := by
  have husrs : knotTree.TaggedHaveUsrs := ⟨by decide +kernel, by decide +kernel⟩
  obtain ⟨-, ⟨outlines, done, houtlined, hunique, hdecls⟩, hscopes⟩ := lowering_ends husrs
  have hcomputed : inside knotTree (fuel knotTree) [] knotTree.root =
      some (knotOutline, ["c:@S@knot", "c:@S@loop"]) := by rfl
  obtain ⟨rfl, rfl⟩ := hunique _ _ (follows_inside knotTree _ hcomputed)
  -- the header is what the declaration belongs to
  have hends : knotTree.ParentsEnd (knotTree.declSite (some "knotForward")) :=
    ⟨0, .unit rfl rfl⟩
  exact ⟨husrs, houtlined, hdecls, hends, hscopes _ hends⟩

end HeaderBindings.Outline
