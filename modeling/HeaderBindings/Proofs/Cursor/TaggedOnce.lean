import HeaderBindings.Cursor.Lowering
import HeaderBindings.Proofs.Cursor.Listing
import Mathlib.Data.List.Nodup

/-!
# Records and enumerations are lowered once

A record or an enumeration is met as a neighbour of other declarations, as the type that a typedef
names, as a redeclaration, and as a member of a definition that stands elsewhere. It is marked by
its USR before anything that it holds is outlined, so that it is lowered at the first of these
(`Lowers`). With every mark there are fewer records left to enter, and between two of them the way
goes down the tree: the outline of a tree is finished (`completes_inside`), it has every record and
every enumeration that is met, and has it once (`tagged_lowered_once`).

## At most once

`Lowers` follows the list of USRs that are done. Outlines lead from one list to another one, which
has the USRs of their records and enumerations in front, in reverse order; and if the first list has
no repetitions, the second one has none. This composes: outlines one behind the other lead from the
first list to the last one (`Lowers.append`), and an outline that holds others adds its own USR in
front of theirs (`Lowers.node`). So the USRs of a whole forest differ from each other.

## At least once

A cursor that is met is accounted for (`Settles`): a record or an enumeration with a name is done,
and a namespace or a linkage block is entered. Whatever is entered has everything directly below it
accounted for (`SettlesBelow`). This suffices, because to be met means to be reached by such steps
(`Met`). What is met depends on the outlines, since the members of a definition are met only if the
record is lowered.

## Why it ends

The walk leaves the part of the tree in which it is when it enters a definition that stands
elsewhere, so the height of the tree is no measure. But then a USR has been marked, and there are
only so many cursors whose USR is not done (`unseen`). Within one definition the way goes down. So
the fuel has to be enough for the height of the tree, once for every cursor (`Suffices`), and the
fuel with which a tree is outlined is (`suffices_fuel`).
-/

namespace HeaderBindings

/-- Whether a cursor stands for a struct, union, class or enumeration. -/
def Cursor.isTagged (c : Cursor) : Bool :=
  match c.kind with
  | .tagged _ => true
  | _ => false

/-- The record or enumeration that a typedef names. -/
def CursorTree.named? (t : CursorTree) (c : Cursor) : Option Cursor :=
  match c.kind, c.underlying.stripped with
  | .typedef, .record decl => some (t.decl decl)
  | .typedef, .enum decl => some (t.decl decl)
  | _, _ => none

/-- All records and enumerations have USRs, also those that are only met through typedefs. -/
structure CursorTree.TaggedHaveUsrs (t : CursorTree) : Prop where
  tagged : ∀ c ∈ t.root.all, c.isTagged → c.usr ≠ ""
  named : ∀ c ∈ t.root.all, ∀ target ∈ t.named? c, target.usr ≠ ""

/-- Whether a declaration is that of a record or an enumeration. -/
def DeclKind.isTagged : DeclKind → Bool
  | .record _ _ _ | .enum _ _ => true
  | _ => false

mutual

/-- The declarations of records and enumerations in a declaration, at any depth. -/
def Decl.tagged : Decl → List Decl
  | d@⟨kind, children, _, _, _⟩ => (if kind.isTagged then [d] else []) ++ taggedAll children

def Decl.taggedAll : List Decl → List Decl
  | [] => []
  | d :: rest => tagged d ++ taggedAll rest

end

namespace Outline

/-- The cursor that is lowered. That of a record is the one at which it is met first. -/
def cursor : Outline → Cursor
  | .scope c _ | .linkage c _ | .record _ c _ _ | .enum _ c | .function _ c | .typedef c
  | .unknown c => c

mutual

/-- The records and enumerations of an outline, at any depth. -/
def tagged : Outline → List Outline
  | .scope _ inner | .linkage _ inner => taggedAll inner
  | o@(.record _ _ _ inner) => o :: taggedAll inner
  | o@(.enum _ _) => [o]
  | .function _ _ | .typedef _ | .unknown _ => []

def taggedAll : List Outline → List Outline
  | [] => []
  | o :: rest => tagged o ++ taggedAll rest

end

def usrs (outlines : List Outline) : List String := (taggedAll outlines).map fun o => o.cursor.usr

mutual

/-- The cursors whose children an outline goes through, at any depth. -/
def entered : Outline → List Cursor
  | .scope c inner | .linkage c inner => c :: enteredAll inner
  | .record _ _ definition inner => definition :: enteredAll inner
  | .enum _ _ | .function _ _ | .typedef _ | .unknown _ => []

def enteredAll : List Outline → List Cursor
  | [] => []
  | o :: rest => entered o ++ enteredAll rest

end

/-- A cursor is met: at the top, in a namespace or a linkage block that is met, or as a member of
the definition of a record that is lowered. -/
inductive Met (t : CursorTree) (outlines : List Outline) : Cursor → Prop where
  | top {c} : c ∈ t.root.children → Met t outlines c
  | within {outer c} : Met t outlines outer → outer.location.file.isSome →
      outer.kind = .scope ∨ outer.kind = .linkage → c ∈ outer.children → Met t outlines c
  | member {name first definition inner c} :
      .record name first definition inner ∈ taggedAll outlines → c ∈ definition.children →
      Met t outlines c

variable {t : CursorTree} {seen mid done : Seen} {outlines others inner : List Outline}
  {c x : Cursor}

/-! ### Lists of outlines

What is said of lists is said of two lists one behind the other, and of one outline in front of
others.
-/

theorem taggedAll_append (first second : List Outline) :
    taggedAll (first ++ second) = taggedAll first ++ taggedAll second := by
  induction first with
  | nil => rfl
  | cons o rest ih => rw [List.cons_append, taggedAll, taggedAll, ih, List.append_assoc]

theorem usrs_append (first second : List Outline) :
    usrs (first ++ second) = usrs first ++ usrs second := by
  rw [usrs, taggedAll_append, List.map_append]
  rfl

theorem enteredAll_append (first second : List Outline) :
    enteredAll (first ++ second) = enteredAll first ++ enteredAll second := by
  induction first with
  | nil => rfl
  | cons o rest ih => rw [List.cons_append, enteredAll, enteredAll, ih, List.append_assoc]

mutual

/-- The definition of a record is entered. -/
theorem mem_entered_of_tagged {name : String} {first definition : Cursor} : ∀ o : Outline,
    .record name first definition inner ∈ tagged o → definition ∈ entered o
  | .scope _ _, h | .linkage _ _, h => by
    rw [tagged] at h
    rw [entered]
    exact List.mem_cons_of_mem _ (mem_enteredAll_of_tagged _ h)
  | .record _ _ _ _, h => by
    rw [tagged] at h
    rw [entered]
    rcases List.mem_cons.1 h with h | h
    · cases h
      exact List.mem_cons_self
    · exact List.mem_cons_of_mem _ (mem_enteredAll_of_tagged _ h)
  | .enum _ _, h => by
    rw [tagged] at h
    cases List.mem_singleton.1 h
  | .function _ _, h | .typedef _, h | .unknown _, h => by
    rw [tagged] at h
    cases h

theorem mem_enteredAll_of_tagged {name : String} {first definition : Cursor} :
    ∀ os : List Outline, .record name first definition inner ∈ taggedAll os →
      definition ∈ enteredAll os
  | [], h => by
    rw [taggedAll] at h
    cases h
  | o :: rest, h => by
    rw [taggedAll] at h
    rw [enteredAll]
    rcases List.mem_append.1 h with h | h
    · exact List.mem_append_left _ (mem_entered_of_tagged o h)
    · exact List.mem_append_right _ (mem_enteredAll_of_tagged rest h)

end

mutual

theorem tagged_toDecl (t : CursorTree) : ∀ o : Outline,
    (toDecl t o).tagged = (tagged o).map (toDecl t)
  | .scope c inner | .linkage c inner => by
    rw [toDecl, tagged, CursorTree.declAt, Decl.tagged, taggedAll_toDecls t inner]
    rfl
  | .record name c definition inner => by
    rw [tagged, List.map_cons, ← taggedAll_toDecls t inner, toDecl, CursorTree.declAt, Decl.tagged]
    rfl
  | .enum name c => by
    rw [tagged, List.map_singleton, toDecl, CursorTree.declAt, Decl.tagged]
    rfl
  | .function _ _ | .typedef _ | .unknown _ => by
    rw [tagged, toDecl, CursorTree.declAt, Decl.tagged]
    rfl

/-- **The records and enumerations of a forest are those of its outlines**, in the same order. -/
theorem taggedAll_toDecls (t : CursorTree) : ∀ os : List Outline,
    Decl.taggedAll (toDecls t os) = (taggedAll os).map (toDecl t)
  | [] => by
    rw [toDecls, Decl.taggedAll, taggedAll]
    rfl
  | o :: rest => by
    rw [toDecls, Decl.taggedAll, taggedAll, List.map_append, tagged_toDecl t o,
      taggedAll_toDecls t rest]

end

/-! ### What outlines do to the USRs that are done

The three parts of `Lowers` are proved for each kind of outline here, and for the functions that
make them below.
-/

/-- A cursor is accounted for: a record or enumeration with a name is done, and a namespace or a
linkage block is entered. -/
structure Settles (outlines : List Outline) (done : Seen) (c : Cursor) : Prop where
  tagged : c.isTagged → c.isAnonymous = false → c.usr ∈ done
  entered : c.kind = .scope ∨ c.kind = .linkage → c ∈ enteredAll outlines

/-- Everything directly below a cursor is accounted for, but what the compiler adds by itself. -/
def SettlesBelow (outlines : List Outline) (done : Seen) (x : Cursor) : Prop :=
  ∀ c ∈ x.children, c.location.file.isSome → Settles outlines done c

/-- Some outlines lead from the USRs `seen` to the USRs `done`: each record and enumeration that
they have is new, and whatever they enter is accounted for. -/
structure Lowers (seen : Seen) (outlines : List Outline) (done : Seen) : Prop where
  done_eq : done = (usrs outlines).reverse ++ seen
  nodup : seen.Nodup → done.Nodup
  below : ∀ x ∈ enteredAll outlines, SettlesBelow outlines done x

theorem Settles.mono (h : Settles outlines done c)
    (hentered : enteredAll outlines ⊆ enteredAll others) (hdone : mid ⊇ done) :
    Settles others mid c where
  tagged htagged hnamed := hdone (h.tagged htagged hnamed)
  entered hkind := hentered (h.entered hkind)

theorem SettlesBelow.mono (h : SettlesBelow outlines done x)
    (hentered : enteredAll outlines ⊆ enteredAll others) (hdone : mid ⊇ done) :
    SettlesBelow others mid x :=
  fun c hc hfile => (h c hc hfile).mono hentered hdone

namespace Lowers

theorem subset (h : Lowers seen outlines done) : seen ⊆ done := by
  rw [h.done_eq]
  exact List.subset_append_right _ _

/-- Outlines without records, enumerations and anything that is entered. -/
theorem silent (husrs : usrs outlines = []) (hentered : enteredAll outlines = []) :
    Lowers seen outlines seen where
  done_eq := by
    rw [husrs]
    rfl
  nodup := id
  below x hx := by
    rw [hentered] at hx
    cases hx

theorem append (h : Lowers seen outlines mid) (h' : Lowers mid others done) :
    Lowers seen (outlines ++ others) done where
  done_eq := by rw [h'.done_eq, h.done_eq, usrs_append, List.reverse_append, List.append_assoc]
  nodup hseen := h'.nodup (h.nodup hseen)
  below x hx := by
    rw [enteredAll_append] at hx
    have hleft : enteredAll outlines ⊆ enteredAll (outlines ++ others) := by
      rw [enteredAll_append]
      exact List.subset_append_left _ _
    have hright : enteredAll others ⊆ enteredAll (outlines ++ others) := by
      rw [enteredAll_append]
      exact List.subset_append_right _ _
    rcases List.mem_append.1 hx with hx | hx
    · exact (h.below x hx).mono hleft h'.subset
    · exact (h'.below x hx).mono hright (List.Subset.refl done)

/-- One outline that enters a cursor, with some new USRs of its own. -/
theorem node {o : Outline} (own : List String)
    (hentered : enteredAll [o] = x :: enteredAll inner) (husrs : usrs [o] = own ++ usrs inner)
    (hown : seen.Nodup → (own.reverse ++ seen).Nodup)
    (h : Lowers (own.reverse ++ seen) inner done) (hx : SettlesBelow inner done x) :
    Lowers seen [o] done where
  done_eq := by rw [h.done_eq, husrs, List.reverse_append, List.append_assoc]
  nodup hseen := h.nodup (hown hseen)
  below y hy := by
    have hinner : enteredAll inner ⊆ enteredAll [o] := by
      rw [hentered]
      exact List.subset_cons_self _ _
    rw [hentered] at hy
    rcases List.mem_cons.1 hy with rfl | hy
    · exact hx.mono hinner (List.Subset.refl done)
    · exact (h.below y hy).mono hinner (List.Subset.refl done)

theorem scope (h : Lowers seen inner done) (hc : SettlesBelow inner done c) :
    Lowers seen [.scope c inner] done := by
  apply node [] _ _ id h hc
  · simp [enteredAll, Outline.entered]
  · simp [usrs, taggedAll, Outline.tagged]

theorem linkage (h : Lowers seen inner done) (hc : SettlesBelow inner done c) :
    Lowers seen [.linkage c inner] done := by
  apply node [] _ _ id h hc
  · simp [enteredAll, Outline.entered]
  · simp [usrs, taggedAll, Outline.tagged]

theorem record {name : String} {definition : Cursor} (hnew : c.usr ∉ seen)
    (h : Lowers (c.usr :: seen) inner done) (hbelow : SettlesBelow inner done definition) :
    Lowers seen [.record name c definition inner] done := by
  apply node [c.usr] _ _ (fun hseen => List.nodup_cons.2 ⟨hnew, hseen⟩) h hbelow
  · simp [enteredAll, Outline.entered]
  · simp [usrs, taggedAll, Outline.tagged, cursor]

theorem enum {name : Option String} (hnew : c.usr ∉ seen) :
    Lowers seen [.enum name c] (c.usr :: seen) where
  done_eq := rfl
  nodup hseen := List.nodup_cons.2 ⟨hnew, hseen⟩
  below _ hx := nomatch hx

end Lowers

/-! ### Fuel

A natural number suffices from some USRs on, for a cursor of some height. It still suffices when
more is done or the cursor is lower, and it suffices for a cursor of any height when one more USR is
done and the fuel is the same.
-/

/-- How many cursors have a USR that is not done. -/
def unseen (t : CursorTree) (seen : Seen) : Nat := t.root.all.countP fun c => c.usr ∉ seen

/-- The fuel suffices for going down by a height, and down the tree again for every cursor whose USR
is not done. -/
def Suffices (t : CursorTree) (fuel : Nat) (seen : Seen) (height : Nat) : Prop :=
  unseen t seen * (t.root.height + 1) + height ≤ fuel

theorem unseen_anti (t : CursorTree) (h : seen ⊆ done) : unseen t done ≤ unseen t seen := by
  apply List.countP_mono_left
  intro c _ hc
  simp only [decide_eq_true_eq] at hc ⊢
  exact fun hmem => hc (h hmem)

/-- A mark leaves fewer cursors whose USR is not done. -/
theorem unseen_mark (hc : c ∈ t.root.all) (hnew : c.usr ∉ seen) :
    unseen t (c.usr :: seen) + 1 ≤ unseen t seen := by
  have hmore : ∀ cs : List Cursor, cs.countP (fun d => d.usr ∉ c.usr :: seen) ≤
      cs.countP fun d => d.usr ∉ seen := by
    intro cs
    apply List.countP_mono_left
    intro d _ hd
    simp only [decide_eq_true_eq] at hd ⊢
    exact fun hmem => hd (List.mem_cons_of_mem _ hmem)
  obtain ⟨before, after, hall⟩ := List.append_of_mem hc
  have hbefore := hmore before
  have hafter := hmore after
  -- the cursor itself is counted before it is marked, and not afterwards
  have hcounted : decide (c.usr ∉ seen) = true := decide_eq_true hnew
  have hmarked : ¬ decide (c.usr ∉ c.usr :: seen) = true := by simp
  unfold unseen
  rw [hall, List.countP_append, List.countP_append, List.countP_cons, List.countP_cons,
    if_pos hcounted, if_neg hmarked]
  omega

variable {fuel : Nat}

theorem Suffices.mono {height height' : Nat} (h : Suffices t fuel seen height) (hsub : seen ⊆ done)
    (hle : height' ≤ height) : Suffices t fuel done height' := by
  have hcount := Nat.mul_le_mul_right (t.root.height + 1) (unseen_anti t hsub)
  unfold Suffices at h ⊢
  omega

/-- A record is entered with one USR less, so that there is fuel for any height. -/
theorem Suffices.mark {height : Nat} (h : Suffices t fuel seen height) (hc : c ∈ t.root.all)
    (hnew : c.usr ∉ seen) (hx : x ∈ t.root.all) : Suffices t fuel (c.usr :: seen) x.height := by
  have hheight := Cursor.height_le_of_mem_all hx
  have hcount := Nat.mul_le_mul_right (t.root.height + 1) (unseen_mark hc hnew)
  rw [Nat.add_mul, Nat.one_mul] at hcount
  unfold Suffices at h ⊢
  omega

theorem suffices_fuel (t : CursorTree) : Suffices t (Outline.fuel t) [] t.root.height := by
  have hcount : unseen t [] ≤ t.root.size := by
    rw [← Cursor.length_all]
    exact List.countP_le_length
  have hmul := Nat.mul_le_mul_right (t.root.height + 1) hcount
  unfold Suffices fuel
  rw [Nat.add_mul, Nat.one_mul]
  omega

/-! ### Every outline is finished

Each function is treated under the assumption that what cursors hold is outlined and accounted for
wherever the fuel suffices (`Completes`). As in the functions themselves, fuel is spent only between
a cursor and what it holds.
-/

/-- What a cursor holds is outlined wherever the fuel suffices, and accounted for. -/
def Completes (t : CursorTree) (inside : Seen → Cursor → Result) (fuel : Nat) : Prop :=
  ∀ seen x, x ∈ t.root.all → Suffices t fuel seen x.height →
    ∃ outlines done, inside seen x = some (outlines, done) ∧ Lowers seen outlines done ∧
      SettlesBelow outlines done x

theorem mark?_of_mem (husr : c.usr ≠ "") (hmem : c.usr ∈ seen) : mark? seen c = none := by
  rw [mark?, if_neg husr, if_pos hmem]

theorem mark?_of_not_mem (husr : c.usr ≠ "") (hnew : c.usr ∉ seen) :
    mark? seen c = some (c.usr :: seen) := by
  rw [mark?, if_neg husr, if_neg hnew]

theorem lowers_ofEnum (husr : c.usr ≠ "") (seen : Seen) (name : Option String) :
    ∃ outlines done, ofEnum seen name c = (outlines, done) ∧ Lowers seen outlines done ∧
      c.usr ∈ done := by
  unfold ofEnum
  by_cases hmem : c.usr ∈ seen
  · rw [mark?_of_mem husr hmem]
    exact ⟨[], seen, rfl, .silent rfl rfl, hmem⟩
  · rw [mark?_of_not_mem husr hmem]
    exact ⟨_, _, rfl, .enum hmem, List.mem_cons_self⟩

theorem Lowers.withTypedef {named : List Outline} (h : Lowers seen named done)
    (c target : Cursor) : Lowers seen (withTypedef c target named) done := by
  unfold Outline.withTypedef
  split
  · exact h
  · exact h.append (.silent rfl rfl)

variable {inside : Seen → Cursor → Result}

theorem Completes.ofRecord (h : Completes t inside fuel) (hc : c ∈ t.root.all)
    (husr : c.usr ≠ "") {height : Nat} (hfuel : Suffices t fuel seen height) (name : String) :
    ∃ outlines done, ofRecord t inside seen name c = some (outlines, done) ∧
      Lowers seen outlines done ∧ c.usr ∈ done := by
  unfold Outline.ofRecord
  by_cases hmem : c.usr ∈ seen
  · rw [mark?_of_mem husr hmem]
    exact ⟨[], seen, rfl, .silent rfl rfl, hmem⟩
  · have hdefinition := CursorTree.definition_mem_all hc
    obtain ⟨inner, done, hinner, hlowers, hbelow⟩ :=
      h (c.usr :: seen) (t.definition c) hdefinition (hfuel.mark hc hmem hdefinition)
    rw [mark?_of_not_mem husr hmem]
    dsimp only
    rw [hinner]
    exact ⟨_, done, rfl, .record hmem hlowers hbelow, hlowers.subset List.mem_cons_self⟩

/-- What a typedef names is a cursor of the tree. -/
theorem mem_all_of_named (h : t.TaggedHaveUsrs) (hc : c ∈ t.root.all) {decl : Option String}
    (hnamed : t.named? c = some (t.decl decl)) :
    t.decl decl ∈ t.root.all ∧ (t.decl decl).usr ≠ "" := by
  have husr : (t.decl decl).usr ≠ "" := h.named c hc _ hnamed
  refine ⟨(t.decl_mem_all_or decl).resolve_right fun hnone => ?_, husr⟩
  rw [hnone] at husr
  exact husr rfl

theorem Completes.ofTypedef (h : Completes t inside fuel) (husrs : t.TaggedHaveUsrs)
    (hc : c ∈ t.root.all) (hkind : c.kind = .typedef) {height : Nat}
    (hfuel : Suffices t fuel seen height) :
    ∃ outlines done, ofTypedef t inside seen c = some (outlines, done) ∧
      Lowers seen outlines done := by
  unfold Outline.ofTypedef
  split
  · next decl hstripped =>
    have hnamed : t.named? c = some (t.decl decl) := by
      rw [CursorTree.named?, hkind, hstripped]
    obtain ⟨hmem, husr⟩ := mem_all_of_named husrs hc hnamed
    obtain ⟨named, done, hrecord, hlowers, -⟩ :=
      h.ofRecord hmem husr hfuel (nameBehind c (t.decl decl))
    dsimp only
    rw [hrecord]
    exact ⟨_, done, rfl, hlowers.withTypedef c _⟩
  · next decl hstripped =>
    have hnamed : t.named? c = some (t.decl decl) := by
      rw [CursorTree.named?, hkind, hstripped]
    obtain ⟨-, husr⟩ := mem_all_of_named husrs hc hnamed
    obtain ⟨named, done, henum, hlowers, -⟩ :=
      lowers_ofEnum husr seen (some (nameBehind c (t.decl decl)))
    dsimp only
    rw [henum]
    exact ⟨_, done, rfl, hlowers.withTypedef c _⟩
  · exact ⟨_, seen, rfl, .silent rfl rfl⟩

/-- A record or an enumeration is accounted for when its USR is done, or without a name. -/
theorem Settles.of_tagged {tag : Tag} (hkind : c.kind = .tagged tag)
    (hdone : c.isAnonymous = false → c.usr ∈ done) : Settles outlines done c where
  tagged _ hnamed := hdone hnamed
  entered hentered := by
    rcases hentered with hscope | hlinkage
    · cases hkind.symm.trans hscope
    · cases hkind.symm.trans hlinkage

/-- A namespace or a linkage block is accounted for when it is entered. -/
theorem Settles.of_entered (hkind : c.isTagged = false) (hentered : c ∈ enteredAll outlines) :
    Settles outlines done c where
  tagged htagged := by
    rw [hkind] at htagged
    cases htagged
  entered _ := hentered

/-- A cursor that is neither a record, an enumeration, a namespace nor a linkage block. -/
theorem Settles.of_plain (hkind : c.isTagged = false)
    (hother : ¬ (c.kind = .scope ∨ c.kind = .linkage)) : Settles outlines done c where
  tagged htagged := by
    rw [hkind] at htagged
    cases htagged
  entered hentered := absurd hentered hother

theorem Completes.ofCursor_tagged (h : Completes t inside fuel) (husrs : t.TaggedHaveUsrs)
    (hc : c ∈ t.root.all) {tag : Tag} (hkind : c.kind = .tagged tag) {height : Nat}
    (hfuel : Suffices t fuel seen height) (parent : Cursor) (later : List Cursor) :
    ∃ outlines done, ofCursor t inside seen parent c later = some (outlines, done) ∧
      Lowers seen outlines done ∧ Settles outlines done c := by
  have husr := husrs.tagged c hc (by simp [Cursor.isTagged, hkind])
  have hanonymous : c.isAnonymous → ∀ outlines done, Settles outlines done c :=
    fun hanonymous _ _ => .of_tagged hkind fun hnamed => by
      rw [hanonymous] at hnamed
      cases hnamed
  unfold Outline.ofCursor
  rw [hkind]
  cases tag with
  | enum =>
    dsimp only
    by_cases hnone : c.isAnonymous
    · rw [hnone, if_neg (by decide)]
      -- it is passed over when a typedef next to it names it
      split
      · exact ⟨[], seen, rfl, .silent rfl rfl, hanonymous hnone _ _⟩
      · obtain ⟨outlines, done, henum, hlowers, -⟩ := lowers_ofEnum husr seen none
        rw [henum]
        exact ⟨_, _, rfl, hlowers, hanonymous hnone _ _⟩
    · obtain ⟨outlines, done, henum, hlowers, hdone⟩ := lowers_ofEnum husr seen (some c.spelling)
      rw [Bool.eq_false_iff.2 hnone, if_pos (by decide), henum]
      exact ⟨_, _, rfl, hlowers, .of_tagged hkind fun _ => hdone⟩
  | struct | union | classTag =>
    dsimp only
    split
    · next hnone => exact ⟨[], seen, rfl, .silent rfl rfl, hanonymous hnone _ _⟩
    · obtain ⟨outlines, done, hrecord, hlowers, hdone⟩ := h.ofRecord hc husr hfuel c.spelling
      exact ⟨outlines, done, hrecord, hlowers, .of_tagged hkind fun _ => hdone⟩

/-- **A cursor is outlined and accounted for**, by its kind. -/
theorem Completes.ofCursor (h : Completes t inside fuel) (husrs : t.TaggedHaveUsrs)
    (hc : c ∈ t.root.all) (hfuel : Suffices t fuel seen c.height) (parent : Cursor)
    (later : List Cursor) :
    ∃ outlines done, ofCursor t inside seen parent c later = some (outlines, done) ∧
      Lowers seen outlines done ∧ Settles outlines done c := by
  cases hkind : c.kind with
  | tagged tag => exact h.ofCursor_tagged husrs hc hkind hfuel parent later
  | scope =>
    obtain ⟨inner, done, hinner, hlowers, hbelow⟩ := h seen c hc hfuel
    rw [Outline.ofCursor, hkind]
    dsimp only
    rw [hinner]
    refine ⟨_, done, rfl, hlowers.scope hbelow, .of_entered ?_ List.mem_cons_self⟩
    simp [Cursor.isTagged, hkind]
  | linkage =>
    obtain ⟨inner, done, hinner, hlowers, hbelow⟩ := h seen c hc hfuel
    rw [Outline.ofCursor, hkind]
    dsimp only
    rw [hinner]
    refine ⟨_, done, rfl, hlowers.linkage hbelow, .of_entered ?_ List.mem_cons_self⟩
    simp [Cursor.isTagged, hkind]
  | typedef =>
    obtain ⟨outlines, done, htypedef, hlowers⟩ := h.ofTypedef husrs hc hkind hfuel
    rw [Outline.ofCursor, hkind]
    refine ⟨outlines, done, htypedef, hlowers, .of_plain ?_ ?_⟩
    · simp [Cursor.isTagged, hkind]
    · simp [hkind]
  | function kind =>
    rw [Outline.ofCursor, hkind]
    refine ⟨_, seen, rfl, ?_, .of_plain ?_ ?_⟩
    · split
      · exact .silent rfl rfl
      · exact .silent rfl rfl
    · simp [Cursor.isTagged, hkind]
    · simp [hkind]
  | field | accessLabel | enumerator | unit | other =>
    rw [Outline.ofCursor, hkind]
    refine ⟨_, seen, rfl, .silent rfl rfl, .of_plain ?_ ?_⟩
    · simp [Cursor.isTagged, hkind]
    · simp [hkind]

/-- **Neighbouring cursors are outlined and accounted for**, by induction on the neighbours. -/
theorem Completes.ofCursors (h : Completes t inside fuel) (husrs : t.TaggedHaveUsrs)
    (parent : Cursor) {cs : List Cursor}
    (hcs : ∀ c ∈ cs, c ∈ t.root.all ∧ Suffices t fuel seen c.height) :
    ∃ outlines done, ofCursors t inside parent seen cs = some (outlines, done) ∧
      Lowers seen outlines done ∧
      ∀ c ∈ cs, c.location.file.isSome → Settles outlines done c := by
  induction cs generalizing seen with
  | nil => exact ⟨[], seen, rfl, .silent rfl rfl, fun _ hc => nomatch hc⟩
  | cons c later ih =>
    obtain ⟨hc, hfuel⟩ := hcs c List.mem_cons_self
    rw [Outline.ofCursors]
    split
    · next hfile =>
      obtain ⟨outlines, done, hlater, hlowers, hsettles⟩ :=
        ih fun d hd => hcs d (List.mem_cons_of_mem c hd)
      refine ⟨outlines, done, hlater, hlowers, fun d hd hsome => ?_⟩
      rcases List.mem_cons.1 hd with rfl | hd
      · rw [Option.isNone_iff_eq_none] at hfile
        rw [hfile] at hsome
        cases hsome
      · exact hsettles d hd hsome
    · obtain ⟨first, mid, hfirst, hlowers, hsettles⟩ := h.ofCursor husrs hc hfuel parent later
      obtain ⟨others, done, hlater, hlowers', hsettles'⟩ := ih fun d hd =>
        ⟨(hcs d (List.mem_cons_of_mem c hd)).1,
          (hcs d (List.mem_cons_of_mem c hd)).2.mono hlowers.subset (Nat.le_refl _)⟩
      rw [hfirst]
      show ∃ outlines done, (Outline.ofCursors t inside parent mid later >>= _) = _ ∧ _
      rw [hlater]
      refine ⟨first ++ others, done, rfl, hlowers.append hlowers', fun d hd hsome => ?_⟩
      rcases List.mem_cons.1 hd with rfl | hd
      · apply hsettles.mono _ hlowers'.subset
        rw [enteredAll_append]
        exact List.subset_append_left _ _
      · apply (hsettles' d hd hsome).mono _ (List.Subset.refl done)
        rw [enteredAll_append]
        exact List.subset_append_right _ _

/-- **Wherever the fuel suffices, what a cursor holds is outlined**, by induction on the fuel. -/
theorem completes_inside (husrs : t.TaggedHaveUsrs) (fuel : Nat) :
    Completes t (Outline.inside t fuel) fuel := by
  induction fuel with
  | zero =>
    intro seen x _ hfuel
    -- a cursor is at least one high
    have hpositive := Cursor.height_eq x
    unfold Suffices at hfuel
    omega
  | succ fuel ih =>
    intro seen x hx hfuel
    refine ih.ofCursors husrs x fun c hc => ⟨Cursor.mem_all_of_mem_children hx hc, ?_⟩
    have hlower := Cursor.height_lt_of_mem_children hc
    unfold Suffices at hfuel ⊢
    omega

theorem Met.settles (h : Met t outlines c) (hlowers : Lowers [] outlines done)
    (hroot : SettlesBelow outlines done t.root) (hfile : c.location.file.isSome) :
    Settles outlines done c := by
  induction h with
  | top hc => exact hroot _ hc hfile
  | within _ houter hkind hc ih =>
    exact hlowers.below _ ((ih houter).entered hkind) _ hc hfile
  | member hrecord hc =>
    exact hlowers.below _ (mem_enteredAll_of_tagged _ hrecord) _ hc hfile

/-- **Every record and every enumeration is lowered exactly once.**

If all records and enumerations of a tree have USRs, the tree is lowered to a forest. The records
and enumerations of the forest, at any depth, are lowered from cursors with different USRs; and for
every struct, union, class or enumeration with a name and a file that is met on the way, exactly one
of them is lowered from a cursor with its USR. -/
theorem tagged_lowered_once (husrs : t.TaggedHaveUsrs) :
    ∃ outlines, ofTree? t = some outlines ∧ t.decls? = some (toDecls t outlines) ∧
      Decl.taggedAll (toDecls t outlines) = (taggedAll outlines).map (toDecl t) ∧
      (usrs outlines).Nodup ∧
      ∀ c, Met t outlines c → c.location.file.isSome → c.isTagged → c.isAnonymous = false →
        (usrs outlines).count c.usr = 1 := by
  obtain ⟨outlines, done, hinside, hlowers, hroot⟩ :=
    completes_inside husrs (Outline.fuel t) [] t.root (Cursor.mem_all_self _) (suffices_fuel t)
  have htree : ofTree? t = some outlines := by
    rw [ofTree?, hinside]
    rfl
  have hdone : done = (usrs outlines).reverse := by
    rw [hlowers.done_eq, List.append_nil]
  have hnodup : (usrs outlines).Nodup := by
    rw [← List.nodup_reverse, ← hdone]
    exact hlowers.nodup List.nodup_nil
  refine ⟨outlines, htree, ?_, taggedAll_toDecls t outlines, hnodup, ?_⟩
  · rw [CursorTree.decls?, htree]
    rfl
  · intro c hmet hfile htagged hnamed
    have hmem := (hmet.settles hlowers hroot hfile).tagged htagged hnamed
    rw [hdone, List.mem_reverse] at hmem
    exact List.count_eq_one_of_mem hnodup hmem

/-- A struct that is declared in the definition of another one. -/
def leafVein : Cursor where
  kind := .tagged .struct
  spelling := "vein"
  usr := "c:@S@leaf@S@vein"
  location := { file := some "leaf.h" }

/-- The definition of a struct that is declared before. -/
def leafStruct : Cursor where
  kind := .tagged .struct
  id? := some "leaf"
  spelling := "leaf"
  usr := "c:@S@leaf"
  location := { file := some "leaf.h" }
  children := [leafVein]

/-- A declaration of the struct without a definition. -/
def leafForward : Cursor where
  kind := .tagged .struct
  id? := some "forward"
  spelling := "leaf"
  usr := "c:@S@leaf"
  location := { file := some "leaf.h" }
  definition := .explicit "leaf"

/-- A typedef of the struct, by its first declaration. -/
def leafTypedef : Cursor where
  kind := .typedef
  spelling := "Leaf"
  location := { file := some "leaf.h" }
  underlying := .elaborated (.record (some "forward"))

/-- A header in which the struct is met three times. -/
def leafTree : CursorTree where
  root := { kind := .unit, children := [leafTypedef, leafForward, leafStruct] }

/-- The struct in the outline of the header: with the members of its definition. -/
def leafOutline : Outline :=
  .record "leaf" leafForward leafStruct [.record "vein" leafVein leafVein []]

theorem tagged_lowered_once_leaf :
    leafTree.TaggedHaveUsrs ∧ ∃ outlines, ofTree? leafTree = some outlines ∧
      usrs outlines = ["c:@S@leaf", "c:@S@leaf@S@vein"] ∧ Met leafTree outlines leafVein ∧
      (usrs outlines).count leafVein.usr = 1 := by
  have husrs : leafTree.TaggedHaveUsrs := ⟨by decide +kernel, by decide +kernel⟩
  obtain ⟨outlines, htree, -, -, -, honce⟩ := tagged_lowered_once husrs
  have hcomputed : ofTree? leafTree = some [leafOutline, .typedef leafTypedef] := by rfl
  obtain rfl := Option.some.inj (htree.symm.trans hcomputed)
  have hrecord : leafOutline ∈ taggedAll [leafOutline, .typedef leafTypedef] := by
    rw [taggedAll, leafOutline, tagged]
    exact List.mem_cons_self
  have hmet : Met leafTree [leafOutline, .typedef leafTypedef] leafVein :=
    .member hrecord List.mem_cons_self
  exact ⟨husrs, _, htree, rfl, hmet, honce leafVein hmet rfl rfl rfl⟩

end Outline

end HeaderBindings
