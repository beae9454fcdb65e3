import HeaderBindings.Cursor

/-!
# Outlines of cursor trees

An outline tells which cursors become declarations, and under which names. Records and enumerations
appear once, at their first declaration; what else declares the same thing is recognised by its USR
and left out. An anonymous record or enumeration bears the name of the typedef that names it, and
comes in the place of that typedef.
-/

namespace HeaderBindings

/-- A cursor that becomes a declaration, with those nested in it. -/
inductive Outline where
  | scope (c : Cursor) (inner : List Outline)
  | linkage (c : Cursor) (inner : List Outline)
  /-- A record that is first declared by `c` and whose members are those of `definition`. -/
  | record (name : String) (c definition : Cursor) (inner : List Outline)
  | enum (name : Option String) (c : Cursor)
  | function (kind : FunctionKind) (c : Cursor)
  | typedef (c : Cursor)
  | unknown (c : Cursor)
  deriving Repr

namespace Outline

/-- The USRs of the records and enumerations that are done. -/
abbrev Seen := List String

/-- An outline of some cursors, and the USRs that are done after it. There is none if the fuel does
not suffice. -/
abbrev Result := Option (List Outline × Seen)

/-- Marks a record or enumeration as done, unless it is already. Without a USR, it counts as new. -/
def mark? (seen : Seen) (c : Cursor) : Option Seen :=
  if c.usr = "" then some seen
  else if c.usr ∈ seen then none
  else some (c.usr :: seen)

/-- The outline of a record under a given name. `inside` outlines what a cursor holds. -/
def ofRecord (t : CursorTree) (inside : Seen → Cursor → Result) (seen : Seen) (name : String)
    (c : Cursor) : Result :=
  match mark? seen c with
  | none => some ([], seen)
  | some seen => do
    let definition := t.definition c
    let (inner, seen) ← inside seen definition
    return ([.record name c definition inner], seen)

def ofEnum (seen : Seen) (name : Option String) (c : Cursor) : List Outline × Seen :=
  match mark? seen c with
  | none => ([], seen)
  | some seen => ([.enum name c], seen)

/-- The name of what a typedef names: its own name if it has one, that of the typedef otherwise. -/
def nameBehind (c target : Cursor) : String :=
  if target.isAnonymous then c.spelling else target.spelling

/-- What a typedef adds, given the outline of the record or enumeration that it names. -/
def withTypedef (c target : Cursor) (named : List Outline) : List Outline :=
  if target.isAnonymous && !named.isEmpty then named else named ++ [.typedef c]

/-- What is done leaves nothing in front of the typedef. -/
theorem withTypedef_nil (c target : Cursor) : withTypedef c target [] = [.typedef c] := by
  rw [withTypedef, List.isEmpty_nil, Bool.not_true, Bool.and_false]
  rfl

/-- The outline of a typedef. The record or enumeration that it names comes in front of it, unless
it is done. -/
def ofTypedef (t : CursorTree) (inside : Seen → Cursor → Result) (seen : Seen) (c : Cursor) :
    Result :=
  match c.underlying.stripped with
  | .record decl => do
    let target := t.decl decl
    let (named, seen) ← ofRecord t inside seen (nameBehind c target) target
    return (withTypedef c target named, seen)
  | .enum decl =>
    let target := t.decl decl
    let (named, seen) := ofEnum seen (some (nameBehind c target)) target
    some (withTypedef c target named, seen)
  | _ => some ([.typedef c], seen)

theorem ofTypedef_of_record {t : CursorTree} {inside : Seen → Cursor → Result} {seen : Seen}
    {c : Cursor} {decl : Option String}
    (h : c.underlying.stripped = .record decl) :
    ofTypedef t inside seen c =
      (ofRecord t inside seen (nameBehind c (t.decl decl)) (t.decl decl)).map
        fun done => (withTypedef c (t.decl decl) done.1, done.2) := by
  unfold ofTypedef
  rw [h]
  dsimp only
  cases ofRecord t inside seen (nameBehind c (t.decl decl)) (t.decl decl) <;> rfl

theorem ofTypedef_of_enum {t : CursorTree} {inside : Seen → Cursor → Result} {seen : Seen}
    {c : Cursor} {decl : Option String}
    (h : c.underlying.stripped = .enum decl) :
    ofTypedef t inside seen c =
      (some (ofEnum seen (some (nameBehind c (t.decl decl))) (t.decl decl))).map
        fun done => (withTypedef c (t.decl decl) done.1, done.2) := by
  unfold ofTypedef
  rw [h]
  rfl

/-- A typedef is an alias and nothing else, if no record or enumeration is found behind one keyword
or scope. -/
theorem ofTypedef_of_alias {t : CursorTree} {inside : Seen → Cursor → Result} {seen : Seen}
    {c : Cursor} (hrecord : ∀ decl, c.underlying.stripped ≠ .record decl)
    (henum : ∀ decl, c.underlying.stripped ≠ .enum decl) :
    ofTypedef t inside seen c = some ([.typedef c], seen) := by
  unfold ofTypedef
  split
  · next decl hstripped => exact absurd hstripped (hrecord decl)
  · next decl hstripped => exact absurd hstripped (henum decl)
  · rfl

/-- Whether a typedef among some cursors names the cursor `c`. -/
def isNamedIn (c : Cursor) (cursors : List Cursor) : Bool :=
  cursors.any fun d =>
    d.kind = .typedef && d.underlying.stripped.decl?.isSome &&
      d.underlying.stripped.decl? = c.id?

/-- Whether a function is declared where it belongs. A member that is defined outside of its class
repeats a declaration in it. -/
def isInPlace (parent c : Cursor) : Bool :=
  match c.semanticParent with
  | .implied => true
  | .absent => false
  | .explicit id => parent.id? = some id

/-- The outline of a cursor with a file, which stands below `parent` and in front of `later`. -/
def ofCursor (t : CursorTree) (inside : Seen → Cursor → Result) (seen : Seen) (parent c : Cursor)
    (later : List Cursor) : Result :=
  match c.kind with
  | .scope => do
    let (inner, seen) ← inside seen c
    return ([.scope c inner], seen)
  | .linkage => do
    let (inner, seen) ← inside seen c
    return ([.linkage c inner], seen)
  | .tagged .enum =>
    if !c.isAnonymous then some (ofEnum seen (some c.spelling) c)
    else if isNamedIn c later then some ([], seen)
    else some (ofEnum seen none c)
  | .tagged _ => if c.isAnonymous then some ([], seen) else ofRecord t inside seen c.spelling c
  | .function kind => some (if isInPlace parent c then [.function kind c] else [], seen)
  | .typedef => ofTypedef t inside seen c
  | .field => some ([], seen)
  | .accessLabel => some ([], seen)
  | _ => some ([.unknown c], seen)

/-- The outline of neighbouring cursors below `parent`. -/
def ofCursors (t : CursorTree) (inside : Seen → Cursor → Result) (parent : Cursor) :
    Seen → List Cursor → Result
  | seen, [] => some ([], seen)
  | seen, c :: later =>
    -- what the compiler adds by itself has no file
    if c.location.file.isNone then ofCursors t inside parent seen later
    else do
      let (first, seen) ← ofCursor t inside seen parent c later
      let (others, seen) ← ofCursors t inside parent seen later
      return (first ++ others, seen)

/-- The outline of what a cursor holds. The fuel bounds how deep declarations are nested. -/
def inside (t : CursorTree) : (fuel : Nat) → Seen → Cursor → Result
  | 0, _, _ => none
  | fuel + 1, seen, c => ofCursors t (inside t fuel) c seen c.children

/-- Fuel for a tree. Going down, the height of the tree bounds the steps until a record is entered
whose definition stands elsewhere; and no record is entered twice. -/
def fuel (t : CursorTree) : Nat := (t.root.size + 1) * (t.root.height + 1)

def ofTree? (t : CursorTree) : Option (List Outline) :=
  (inside t (fuel t) [] t.root).map Prod.fst

end Outline

end HeaderBindings
