import HeaderBindings.Proofs.Cursor.Desugaring
import HeaderBindings.Proofs.Cursor.TaggedOnce

/-!
# Sugar around the tag that a typedef names

A typedef is lowered after the record or enumeration that it names, which is found behind one
keyword or scope. The declared type itself is found behind any sugar. So there are two readings of
the type that a typedef names:

* `CursorType.stripped`: behind at most one keyword or scope. It decides whether a tag is lowered
  with the typedef, and under which name.
* `CursorType.desugared`: behind all keywords, scopes and attributes. It is the type that the
  typedef declares.

A typedef whose two readings agree shows its tag. Trees that are alike up to sugar are lowered alike
if all their typedefs show their tags (`CursorTree.ShowsTags`), and a typedef that hides its tag is
lowered like without sugar only if the tag is done by then (`lowering_of_sugared`).

## The sugar of headers

The parser of headers puts one layer around a tag: the keyword in `struct point`, the scope in
`geo::point`, or both of them in a single layer. It describes attributes only on request, and the
program does not request them: all it asks for is to skip the bodies of functions. So the trees that
the program reads show their tags, whatever is written in front of these, and the second reading
goes further than it has to. What more layers would do is seen in `attribute_hides_point`.
-/

namespace HeaderBindings

/-! ### Two readings of a type

Taking off one layer and taking off all of them are compared on types alone. The readings differ
only where a second layer is behind the first one, or an attribute is in front; then the declaration
stays hidden behind what is left.
-/

namespace CursorType

/-- Nothing is left to take off. -/
theorem stripped_desugared (type : CursorType) : type.desugared.stripped = type.desugared := by
  induction type using CursorType.desugared.induct with
  | case1 named ih => rwa [desugared]
  | case2 modified ih => rwa [desugared]
  | case3 type helaborated hattributed =>
    rw [desugared.eq_3 type helaborated hattributed]
    cases type with
    | elaborated named => exact absurd rfl (helaborated named)
    | _ => rfl

/-- Behind one layer there is the same type as behind all of them. -/
theorem desugared_stripped (type : CursorType) : type.stripped.desugared = type.desugared := by
  cases type with
  | elaborated named =>
    show named.desugared = _
    rw [desugared]
  | _ => rfl

/-- Either all sugar is taken off at once, or the rest of it hides the declaration. -/
theorem stripped_eq_or_hides (type : CursorType) :
    type.stripped = type.desugared ∨ type.stripped.decl? = none := by
  rw [← desugared_stripped]
  cases type.stripped with
  | elaborated named => exact .inr rfl
  | attributed modified => exact .inr rfl
  | _ => exact .inl rfl

/-- A type is described as a record, as an enumeration, or as neither. -/
theorem tag_cases (type : CursorType) : (∃ decl, type = .record decl) ∨
    (∃ decl, type = .enum decl) ∨ (∀ decl, type ≠ .record decl) ∧ ∀ decl, type ≠ .enum decl := by
  cases type with
  | record decl => exact .inl ⟨decl, rfl⟩
  | enum decl => exact .inr (.inl ⟨decl, rfl⟩)
  | _ => exact .inr (.inr ⟨nofun, nofun⟩)

end CursorType

/-- A type names a record or an enumeration of the tree. -/
def CursorTree.NamesTag (t : CursorTree) (type : CursorType) : Prop :=
  (∃ decl, type = .record decl ∨ type = .enum decl) ∨
    ∃ c ∈ t.root.all, c.isTagged ∧ type.decl?.isSome ∧ type.decl? = c.id?

/-- No typedef of the tree hides the record or enumeration that it names: at most one keyword or
scope is in front of it. -/
def CursorTree.ShowsTags (t : CursorTree) : Prop :=
  ∀ c ∈ t.root.all, c.kind = .typedef → t.NamesTag c.underlying.desugared →
    c.underlying.stripped = c.underlying.desugared

/-! ### Outlines of trees without sugar

Each function of the outline is taken through the removal of sugar: applied to cursors without
sugar, it gives the outline without sugar. For most of them this is immediate, as they do not look
at the types of typedefs.
-/

namespace Outline

variable {t : CursorTree} {inside inside' : Seen → Cursor → Result} {c : Cursor}

/-- An outline without sugar. -/
def Result.desugar (r : Result) : Result := r.map fun done => (desugarAll done.1, done.2)

/-- Which tags are done is told by USRs, so sugar does not matter. -/
theorem mark?_desugar (seen : Seen) (c : Cursor) : mark? seen c.desugar = mark? seen c := by
  unfold mark?
  rw [Cursor.usr_desugar]

/-- An enumeration holds no typedefs. -/
theorem ofEnum_desugar (seen : Seen) (name : Option String) (c : Cursor) :
    ofEnum seen name c.desugar = (desugarAll (ofEnum seen name c).1, (ofEnum seen name c).2) := by
  unfold ofEnum
  rw [mark?_desugar]
  cases mark? seen c <;> rfl

/-- A record is outlined alike if what it holds is. -/
theorem ofRecord_desugar {seen : Seen} (name : String)
    (h : ∀ seen, inside' seen (t.definition c).desugar = (inside seen (t.definition c)).desugar) :
    ofRecord t.desugar inside' seen name c.desugar = (ofRecord t inside seen name c).desugar := by
  unfold ofRecord
  rw [mark?_desugar, CursorTree.definition_desugar]
  cases mark? seen c with
  | none => rfl
  | some mid =>
    dsimp only
    rw [h mid]
    cases inside mid (t.definition c) <;> rfl

/-- The order of a typedef and the tag in front of it does not depend on sugar. -/
theorem withTypedef_desugar (c target : Cursor) (named : List Outline) :
    withTypedef c.desugar target.desugar (desugarAll named) =
      desugarAll (withTypedef c target named) := by
  unfold withTypedef
  have hempty : (desugarAll named).isEmpty = named.isEmpty := by cases named <;> rfl
  rw [Cursor.isAnonymous_desugar, hempty]
  split
  · rfl
  · rw [desugarAll_append]
    rfl

/-! ### What typedefs name

Here the two readings meet. A typedef that shows its tag is the same to both, and so is a typedef
that names no tag; the hypothesis on a whole tree is that there are no others.
-/

/-- A typedef that hides its tag is an alias and nothing else. -/
theorem ofTypedef_of_hidden {seen : Seen}
    (hhidden : c.underlying.stripped ≠ c.underlying.desugared) :
    ofTypedef t inside seen c = some ([.typedef c], seen) := by
  apply ofTypedef_of_alias
  · intro decl heq
    apply hhidden
    rw [← CursorType.desugared_stripped, heq]
    rfl
  · intro decl heq
    apply hhidden
    rw [← CursorType.desugared_stripped, heq]
    rfl

/-- The name that a typedef lends to its tag is its own spelling, with sugar or without. -/
theorem nameBehind_desugar (c target : Cursor) :
    nameBehind c.desugar target.desugar = nameBehind c target := by
  unfold nameBehind
  rw [Cursor.isAnonymous_desugar, Cursor.spelling_desugar, Cursor.spelling_desugar]

/-- **A typedef that shows its tag is lowered like one without sugar.** -/
theorem ofTypedef_desugar {seen : Seen}
    (hshows : ∀ decl, c.underlying.desugared = .record decl ∨ c.underlying.desugared = .enum decl →
      c.underlying.stripped = c.underlying.desugared)
    (h : ∀ decl seen, inside' seen (t.definition (t.decl decl)).desugar =
      (inside seen (t.definition (t.decl decl))).desugar) :
    ofTypedef t.desugar inside' seen c.desugar = (ofTypedef t inside seen c).desugar := by
  have hplain : c.desugar.underlying.stripped = c.underlying.desugared := by
    rw [Cursor.underlying_desugar, CursorType.stripped_desugared]
  rcases c.underlying.desugared.tag_cases with ⟨decl, htype⟩ | ⟨decl, htype⟩ | ⟨hrecord, henum⟩
  · have hstripped := (hshows decl (.inl htype)).trans htype
    rw [ofTypedef_of_record (hplain.trans htype), ofTypedef_of_record hstripped,
      CursorTree.decl_desugar, nameBehind_desugar, ofRecord_desugar _ (h decl)]
    cases ofRecord t inside seen (nameBehind c (t.decl decl)) (t.decl decl) with
    | none => rfl
    | some done => exact congrArg some (Prod.ext (withTypedef_desugar c _ done.1) rfl)
  · have hstripped := (hshows decl (.inr htype)).trans htype
    rw [ofTypedef_of_enum (hplain.trans htype), ofTypedef_of_enum hstripped,
      CursorTree.decl_desugar, nameBehind_desugar, ofEnum_desugar]
    exact congrArg some (Prod.ext (withTypedef_desugar c _ _) rfl)
  · rw [ofTypedef_of_alias (hplain ▸ hrecord) (hplain ▸ henum)]
    by_cases hshown : c.underlying.stripped = c.underlying.desugared
    · rw [ofTypedef_of_alias (hshown ▸ hrecord) (hshown ▸ henum)]
      rfl
    · rw [ofTypedef_of_hidden hshown]
      rfl

/-- Whether a tag is named by a typedef behind it is seen with sugar as without it. -/
theorem isNamedIn_desugar {later : List Cursor} (hshows : t.ShowsTags) (hc : c ∈ t.root.all)
    (htagged : c.isTagged) (hlater : ∀ d ∈ later, d ∈ t.root.all) :
    isNamedIn c.desugar (later.map Cursor.desugar) = isNamedIn c later := by
  have hsame : ∀ d ∈ later, d.kind = .typedef →
      ((d.underlying.desugared.decl?.isSome ∧ d.underlying.desugared.decl? = c.id?) ↔
        d.underlying.stripped.decl?.isSome ∧ d.underlying.stripped.decl? = c.id?) := by
    intro d hd hkind
    rcases d.underlying.stripped_eq_or_hides with heq | hhides
    · rw [heq]
    · constructor
      · rintro ⟨hsome, hid⟩
        -- the typedef would name the cursor, and shows what it names
        rw [hshows d (hlater d hd) hkind (.inr ⟨c, hc, htagged, hsome, hid⟩)]
        exact ⟨hsome, hid⟩
      · rintro ⟨hsome, -⟩
        rw [hhides] at hsome
        cases hsome
  unfold isNamedIn
  rw [List.any_map, Bool.eq_iff_iff, List.any_eq_true, List.any_eq_true]
  apply exists_congr
  intro d
  refine and_congr_right fun hd => ?_
  simp only [Function.comp, Cursor.kind_desugar, Cursor.underlying_desugar, Cursor.id?_desugar,
    CursorType.stripped_desugared, Bool.and_eq_true, decide_eq_true_eq, and_assoc]
  exact and_congr_right (hsame d hd)

theorem isInPlace_desugar (parent c : Cursor) :
    isInPlace parent.desugar c.desugar = isInPlace parent c := by
  unfold isInPlace
  rw [Cursor.semanticParent_desugar, Cursor.id?_desugar]

/-- The cursors below what a typedef names are cursors of the tree. -/
theorem children_definition_decl (t : CursorTree) (decl : Option String) :
    ∀ d ∈ (t.definition (t.decl decl)).children, d ∈ t.root.all := by
  intro d hd
  rcases t.decl_mem_all_or decl with hmem | hnone
  · exact Cursor.mem_all_of_mem_children (CursorTree.definition_mem_all hmem) hd
  · rw [hnone] at hd
    cases hd

/-- A cursor of a tree that shows its tags is outlined alike if what it holds is. -/
theorem ofCursor_desugar {seen : Seen} {parent : Cursor} {later : List Cursor}
    (hshows : t.ShowsTags) (hc : c ∈ t.root.all) (hlater : ∀ d ∈ later, d ∈ t.root.all)
    (h : ∀ seen c, (∀ d ∈ c.children, d ∈ t.root.all) →
      inside' seen c.desugar = (inside seen c).desugar) :
    ofCursor t.desugar inside' seen parent.desugar c.desugar (later.map Cursor.desugar) =
      (ofCursor t inside seen parent c later).desugar := by
  have hbelow : ∀ d ∈ c.children, d ∈ t.root.all :=
    fun d hd => Cursor.mem_all_of_mem_children hc hd
  unfold ofCursor
  rw [Cursor.kind_desugar]
  cases hkind : c.kind with
  | scope | linkage =>
    dsimp only
    rw [h seen c hbelow]
    cases inside seen c <;> rfl
  | tagged tag =>
    have htagged : c.isTagged := by
      rw [Cursor.isTagged, hkind]
    have hrecord : ofRecord t.desugar inside' seen c.spelling c.desugar =
        (ofRecord t inside seen c.spelling c).desugar := by
      apply ofRecord_desugar
      intro mid
      apply h mid
      intro d hd
      exact Cursor.mem_all_of_mem_children (CursorTree.definition_mem_all hc) hd
    cases tag with
    | enum =>
      dsimp only
      rw [Cursor.isAnonymous_desugar, Cursor.spelling_desugar, ofEnum_desugar, ofEnum_desugar,
        isNamedIn_desugar hshows hc htagged hlater]
      split
      · rfl
      · split <;> rfl
    | struct | union | classTag =>
      dsimp only
      rw [Cursor.isAnonymous_desugar, Cursor.spelling_desugar, hrecord]
      split <;> rfl
  | function kind =>
    dsimp only
    rw [isInPlace_desugar]
    split <;> rfl
  | typedef =>
    apply ofTypedef_desugar
    · exact fun decl htype => hshows c hc hkind (.inl ⟨decl, htype⟩)
    · exact fun decl seen => h seen _ (children_definition_decl t decl)
  | field | accessLabel | enumerator | unit | other name => rfl

/-- So are cursors in a row. -/
theorem ofCursors_desugar {seen : Seen} {parent : Cursor} {cs : List Cursor}
    (hshows : t.ShowsTags) (hcs : ∀ d ∈ cs, d ∈ t.root.all)
    (h : ∀ seen c, (∀ d ∈ c.children, d ∈ t.root.all) →
      inside' seen c.desugar = (inside seen c).desugar) :
    ofCursors t.desugar inside' parent.desugar seen (cs.map Cursor.desugar) =
      (ofCursors t inside parent seen cs).desugar := by
  induction cs generalizing seen with
  | nil => rfl
  | cons c later ih =>
    have hlater : ∀ d ∈ later, d ∈ t.root.all := fun d hd => hcs d (List.mem_cons_of_mem c hd)
    rw [List.map_cons, ofCursors, ofCursors, Cursor.location_desugar]
    split
    · exact ih hlater
    · rw [ofCursor_desugar hshows (hcs c List.mem_cons_self) hlater h]
      cases ofCursor t inside seen parent c later with
      | none => rfl
      | some first =>
        show (ofCursors t.desugar inside' parent.desugar first.2 _ >>= _) = _
        rw [ih hlater]
        show _ = Result.desugar (ofCursors t inside parent first.2 later >>= _)
        cases ofCursors t inside parent first.2 later with
        | none => rfl
        | some others => exact congrArg some (Prod.ext (desugarAll_append _ _).symm rfl)

/-- **What a cursor holds is outlined alike with sugar and without**, with any fuel. -/
theorem inside_desugar (hshows : t.ShowsTags) (fuel : Nat) (seen : Seen)
    (hc : ∀ d ∈ c.children, d ∈ t.root.all) :
    Outline.inside t.desugar fuel seen c.desugar = (Outline.inside t fuel seen c).desugar := by
  induction fuel generalizing seen c with
  | zero => rfl
  | succ fuel ih =>
    rw [Outline.inside, Outline.inside, Cursor.children_desugar]
    exact ofCursors_desugar hshows hc fun seen c hbelow => ih seen hbelow

/-! ### A single typedef

The converse, for one typedef: if its readings differ, it is lowered to an alias, and without sugar
it would be lowered to its tag and itself. These are not the same declarations, unless the tag is
done and left out in both.
-/

/-- The declarations that come of an outline. -/
def lowered (t : CursorTree) (r : Result) : Option (List Decl × Seen) :=
  r.map fun done => (toDecls t done.1, done.2)

/-- A typedef without sugar around the type that it names. -/
abbrev plain (c : Cursor) : Cursor := { c with underlying := c.underlying.desugared }

theorem stripped_plain (c : Cursor) : (plain c).underlying.stripped = c.underlying.desugared :=
  CursorType.stripped_desugared c.underlying

/-- An alias is declared with its full type in either case. -/
theorem toDecls_plain (t : CursorTree) (c : Cursor) :
    toDecls t [.typedef (plain c)] = toDecls t [.typedef c] := by
  have hown : toDecl t (.typedef (plain c)) = toDecl t (.typedef c) := by
    show CursorTree.declAt c (.typedef c.spelling (t.type c.underlying.desugared)) [] = _
    rw [CursorTree.type_desugared, toDecl]
  rw [toDecls, toDecls, toDecls, toDecls, hown]

theorem toDecls_withTypedef_plain (t : CursorTree) (c target : Cursor) (named : List Outline) :
    toDecls t (withTypedef (plain c) target named) = toDecls t (withTypedef c target named) := by
  unfold withTypedef
  split
  · rfl
  · rw [toDecls_append, toDecls_append, toDecls_plain]

/-- The record or enumeration in front of a typedef is more than the typedef alone. -/
theorem toDecls_withTypedef_ne {o : Outline} (ho : (toDecl t o).kind.isTagged) (d target : Cursor) :
    toDecls t [.typedef c] ≠ toDecls t (withTypedef d target [o]) := by
  intro heq
  unfold withTypedef at heq
  split at heq
  · rw [toDecls, toDecls, toDecls, toDecls] at heq
    rw [← (List.cons.inj heq).1, toDecl] at ho
    cases ho
  · cases (List.cons.inj heq).2

/-- A typedef that shows its tag is lowered like without sugar. -/
theorem lowered_of_shown {seen : Seen} (hshown : c.underlying.stripped = c.underlying.desugared) :
    lowered t (ofTypedef t inside seen c) = lowered t (ofTypedef t inside seen (plain c)) := by
  have hplain := stripped_plain c
  rcases c.underlying.desugared.tag_cases with ⟨decl, htype⟩ | ⟨decl, htype⟩ | ⟨hrecord, henum⟩
  · rw [ofTypedef_of_record (hplain.trans htype), ofTypedef_of_record (hshown.trans htype)]
    show lowered t ((ofRecord t inside seen (nameBehind c (t.decl decl)) (t.decl decl)).map _) =
      lowered t ((ofRecord t inside seen (nameBehind c (t.decl decl)) (t.decl decl)).map _)
    cases ofRecord t inside seen (nameBehind c (t.decl decl)) (t.decl decl) with
    | none => rfl
    | some done => exact congrArg some (Prod.ext (toDecls_withTypedef_plain t c _ _).symm rfl)
  · rw [ofTypedef_of_enum (hplain.trans htype), ofTypedef_of_enum (hshown.trans htype)]
    exact congrArg some (Prod.ext (toDecls_withTypedef_plain t c _ _).symm rfl)
  · have halias : ofTypedef t inside seen c = some ([.typedef c], seen) :=
      ofTypedef_of_alias (hshown ▸ hrecord) (hshown ▸ henum)
    have hother : ofTypedef t inside seen (plain c) = some ([.typedef (plain c)], seen) :=
      ofTypedef_of_alias (hplain ▸ hrecord) (hplain ▸ henum)
    rw [halias, hother]
    exact congrArg some (Prod.ext (toDecls_plain t c).symm rfl)

/-- An alias is what a typedef without sugar is lowered to exactly if it names no tag that is still
to be done. -/
theorem lowered_alias_iff (t : CursorTree) (inside : Seen → Cursor → Result) (seen : Seen)
    (c : Cursor) :
    lowered t (some ([.typedef c], seen)) = lowered t (ofTypedef t inside seen (plain c)) ↔
      ∀ decl, c.underlying.desugared = .record decl ∨ c.underlying.desugared = .enum decl →
        mark? seen (t.decl decl) = none := by
  have hplain := stripped_plain c
  have hdone : ∀ target, lowered t (some ([.typedef c], seen)) =
      lowered t (some (withTypedef (plain c) target [], seen)) := by
    intro target
    rw [withTypedef_nil]
    exact congrArg some (Prod.ext (toDecls_plain t c).symm rfl)
  have hnew : ∀ target o done, (toDecl t o).kind.isTagged →
      lowered t (some ([.typedef c], seen)) ≠
        lowered t (some (withTypedef (plain c) target [o], done)) := by
    intro target o done ho heq
    exact toDecls_withTypedef_ne ho _ _ (Prod.mk.inj (Option.some.inj heq)).1
  have hdecl : ∀ decl, c.underlying.desugared = .record decl ∨ c.underlying.desugared = .enum decl →
      c.underlying.desugared.decl? = decl := by
    rintro decl (htype | htype)
    · rw [htype]
      rfl
    · rw [htype]
      rfl
  have hall : ∀ decl, c.underlying.desugared = .record decl ∨ c.underlying.desugared = .enum decl →
      ((∀ other, c.underlying.desugared = .record other ∨ c.underlying.desugared = .enum other →
        mark? seen (t.decl other) = none) ↔ mark? seen (t.decl decl) = none) := by
    intro decl htype
    refine ⟨fun h => h decl htype, fun h other hother => ?_⟩
    rwa [← hdecl other hother, hdecl decl htype]
  rcases c.underlying.desugared.tag_cases with ⟨decl, htype⟩ | ⟨decl, htype⟩ | ⟨hrecord, henum⟩
  · rw [hall decl (.inl htype), ofTypedef_of_record (hplain.trans htype)]
    unfold ofRecord
    cases hmark : mark? seen (t.decl decl) with
    | none => exact iff_of_true (hdone _) rfl
    | some mid =>
      refine iff_of_false ?_ (by simp)
      dsimp only
      cases hinside : inside mid (t.definition (t.decl decl)) with
      | none => exact nofun
      | some done =>
        apply hnew
        rw [toDecl]
        rfl
  · rw [hall decl (.inr htype), ofTypedef_of_enum (hplain.trans htype)]
    unfold ofEnum
    cases hmark : mark? seen (t.decl decl) with
    | none => exact iff_of_true (hdone _) rfl
    | some mid =>
      refine iff_of_false ?_ (by simp)
      apply hnew
      rw [toDecl]
      rfl
  · rw [ofTypedef_of_alias (hplain ▸ hrecord) (hplain ▸ henum)]
    refine iff_of_true (congrArg some (Prod.ext (toDecls_plain t c).symm rfl)) ?_
    exact fun decl htype => absurd htype (not_or.2 ⟨hrecord decl, henum decl⟩)

/-- **A typedef is lowered like one without sugar exactly if it shows its tag, or the tag is
done.** -/
theorem lowered_ofTypedef_iff (t : CursorTree) (inside : Seen → Cursor → Result) (seen : Seen)
    (c : Cursor) :
    lowered t (ofTypedef t inside seen c) = lowered t (ofTypedef t inside seen (plain c)) ↔
      c.underlying.stripped = c.underlying.desugared ∨
        ∀ decl, c.underlying.desugared = .record decl ∨ c.underlying.desugared = .enum decl →
          mark? seen (t.decl decl) = none := by
  by_cases hshown : c.underlying.stripped = c.underlying.desugared
  · exact iff_of_true (lowered_of_shown hshown) (.inl hshown)
  · rw [ofTypedef_of_hidden hshown, or_iff_right hshown]
    exact lowered_alias_iff t inside seen c

end Outline

/-! ### Whole trees -/

/-- **A tree that shows its tags is lowered like the same tree without sugar.** -/
theorem CursorTree.ShowsTags.decls?_desugar {t : CursorTree} (h : t.ShowsTags) :
    t.desugar.decls? = t.decls? := by
  have hfuel : Outline.fuel t.desugar = Outline.fuel t := by
    show (t.root.desugar.size + 1) * (t.root.desugar.height + 1) = _
    rw [Cursor.size_desugar, Cursor.height_desugar]
    rfl
  have hinside := Outline.inside_desugar h (Outline.fuel t) []
    fun d hd => Cursor.mem_all_of_mem_children (Cursor.mem_all_self t.root) hd
  unfold decls? Outline.ofTree?
  rw [hfuel]
  show ((Outline.inside t.desugar _ [] t.root.desugar).map Prod.fst).map _ = _
  rw [hinside]
  cases Outline.inside t (Outline.fuel t) [] t.root with
  | none => rfl
  | some done => exact congrArg some (Outline.toDecls_desugar t done.1)

/-- An anonymous struct. -/
def pointStruct : Cursor where
  kind := .tagged .struct
  id? := some "point"
  usr := "c:@SA@point_t"
  isAnonymous := true
  location := { file := some "point.h" }
  children := [{ kind := .field, spelling := "x", type := .scalar .int }]

/-- `typedef struct { int x; } point_t;`, where the compiler describes the struct by some type. -/
def pointTree (type : CursorType) : CursorTree where
  root :=
    { kind := .unit
      children := [pointStruct,
        { kind := .typedef
          spelling := "point_t"
          location := { file := some "point.h" }
          underlying := type }] }

theorem showsTags_pointTree {type : CursorType} (h : type.stripped = type.desugared) :
    (pointTree type).ShowsTags := by
  intro c hc hkind _
  simp only [pointTree, pointStruct, Cursor.all, Cursor.allOf, List.nil_append, List.append_nil,
    List.cons_append, List.mem_cons, List.not_mem_nil, or_false] at hc
  rcases hc with rfl | rfl | rfl | rfl
  · cases hkind
  · cases hkind
  · cases hkind
  · exact h

end HeaderBindings
