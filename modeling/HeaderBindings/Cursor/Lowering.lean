import HeaderBindings.Cursor.Outline

/-!
# From cursors to declarations

What each cursor of an outline declares. Types are taken over part by part; one that is not
described well enough becomes a reference by its spelling, which fails when it is converted.
-/

namespace HeaderBindings

namespace CursorTree

/-- The tag of a reference to the declaration `c`. -/
def tagOf (c : Cursor) : Tag :=
  match c.kind with
  | .tagged tag => tag
  | _ => .struct

/-- The tag of a record with the definition `c`. -/
def recordTagOf (c : Cursor) : Tag :=
  match tagOf c with
  | .enum => .struct
  | tag => tag

def complexOf : CursorType → Builtin
  | .scalar b =>
    if b = ⟨.float, {}⟩ then ⟨.complex, {}⟩
    else if b = .double then ⟨.complex, { double := true }⟩
    else ⟨.complex, { double := true, long := true }⟩
  | _ => ⟨.complex, { double := true, long := true }⟩

/-- A reference to a record or an enumeration. One without a name of its own has no usable name. -/
def taggedRef (t : CursorTree) (decl : Option String) : CType :=
  let site := t.declSite decl
  .named
    { name := if site.cursor.isAnonymous then "" else site.cursor.spelling
      scope := t.scope site
      tag := some (tagOf site.cursor) }

def spelledRef (spelling : String) : CType := .named { name := spelling }

mutual

/-- The declared type that a compiler's type describes. -/
def type (t : CursorTree) : CursorType → CType
  | .scalar b => .builtin b
  | .complex elem => .builtin (complexOf elem)
  | .pointer pointee => .pointer (t.type pointee)
  | .array elem size => .array (t.type elem) (size.map Constant.ofInt64)
  | .function params isVariadic result =>
    .func ⟨t.paramTypes params, isVariadic, t.type result⟩
  | .elaborated named => t.type named
  | .attributed modified => t.type modified
  | .typedef decl =>
    let site := t.declSite decl
    .named { name := site.cursor.spelling, scope := t.scope site }
  | .record decl => t.taggedRef decl
  | .enum decl => t.taggedRef decl
  | .unexposed spelling canonical =>
    match canonical with
    | none => spelledRef spelling
    | some (.unexposed _ _) => spelledRef spelling
    | some canonical => t.type canonical
  | .other spelling => spelledRef spelling

/-- The parameters of a function type, which bear no names. -/
def paramTypes (t : CursorTree) : List CursorType → List (Slot CType)
  | [] => []
  | param :: rest => ⟨none, t.type param⟩ :: t.paramTypes rest

end

/-! ### Declarations -/

def fields (t : CursorTree) (c : Cursor) : List (Slot CType) :=
  (c.children.filter fun child => child.kind = .field).map fun child =>
    ⟨some child.spelling, t.type child.type⟩

def enumerators (c : Cursor) : List Enumerator :=
  (c.children.filter fun child => child.kind = .enumerator).map fun child =>
    ⟨child.spelling, some (.ofInt64 child.value)⟩

/-- The parameters of a function. One without a spelling has no name. -/
def params (t : CursorTree) (c : Cursor) : List (Slot CType) :=
  if c.tellsParams then
    c.params.map fun param =>
      ⟨if param.spelling = "" then none else some param.spelling, t.type param.type⟩
  else []

/-- The function that a cursor declares. Without a symbol of its own it is linked by its name. -/
def functionDecl (t : CursorTree) (kind : FunctionKind) (c : Cursor) : FunctionDecl where
  name := c.spelling
  displayName := c.display
  mangledName := if c.mangling = "" then c.spelling else c.mangling
  kind := kind
  type :=
    { params := t.params c
      variadic := c.type.isVariadic
      result := t.type c.type.result }

def declAt (c : Cursor) (kind : DeclKind) (children : List Decl) : Decl where
  kind := kind
  children := children
  location := c.location
  access := c.access
  doc := c.doc?

end CursorTree

namespace Outline

open CursorTree (declAt)

mutual

def toDecl (t : CursorTree) : Outline → Decl
  | .scope c inner =>
    let name := if c.isAnonymous then none else some c.spelling
    declAt c (.scope name) (toDecls t inner)
  | .linkage c inner => declAt c .linkage (toDecls t inner)
  | .record name _ definition inner =>
    declAt definition (.record name (CursorTree.recordTagOf definition) (t.fields definition))
      (toDecls t inner)
  | .enum name c => declAt c (.enum name (CursorTree.enumerators c)) []
  | .function kind c => declAt c (.function (t.functionDecl kind c)) []
  | .typedef c => declAt c (.typedef c.spelling (t.type c.underlying)) []
  | .unknown c => declAt c (.unknown c.kind.name) []

def toDecls (t : CursorTree) : List Outline → List Decl
  | [] => []
  | o :: rest => toDecl t o :: toDecls t rest

end

theorem toDecls_append {t : CursorTree} (first second : List Outline) :
    toDecls t (first ++ second) = toDecls t first ++ toDecls t second := by
  induction first with
  | nil => rfl
  | cons o rest ih => rw [List.cons_append, toDecls, toDecls, ih, List.cons_append]

end Outline

/-- The declarations of a cursor tree. There are none if the tree describes records that contain
themselves without end. -/
def CursorTree.decls? (t : CursorTree) : Option (List Decl) :=
  (Outline.ofTree? t).map (Outline.toDecls t)

end HeaderBindings
