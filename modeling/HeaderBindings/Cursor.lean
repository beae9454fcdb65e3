import HeaderBindings.Header.Declaration

/-!
# Cursor trees

A compiler's view of a header: a tree of cursors, one for every declaration and for every part of
one that matters. Cursors refer to each other by identifiers, for instance from a type to the
declaration of that type, and from a forward declaration to the definition.
-/

namespace HeaderBindings

/-- What a cursor stands for. -/
inductive CursorKind where
  | scope
  | linkage
  /-- A struct, union, class or enumeration. -/
  | tagged (tag : Tag)
  | enumerator
  | field
  | function (kind : FunctionKind)
  | typedef
  /-- A label such as `public:` in a class. -/
  | accessLabel
  /-- The header as a whole. -/
  | unit
  | other (name : String)
  deriving Repr, DecidableEq

def CursorKind.name : CursorKind → String
  | scope => "Namespace"
  | linkage => "LinkageSpec"
  | tagged .struct => "StructDecl"
  | tagged .union => "UnionDecl"
  | tagged .classTag => "ClassDecl"
  | tagged .enum => "EnumDecl"
  | enumerator => "EnumConstantDecl"
  | field => "FieldDecl"
  | function .free => "FunctionDecl"
  | function .method => "CXXMethod"
  | function .constructor => "Constructor"
  | function .destructor => "Destructor"
  | typedef => "TypedefDecl"
  | accessLabel => "CXXAccessSpecifier"
  | unit => "TranslationUnit"
  | other name => name

/-- A type as the compiler describes it. Declarations are referred to by their identifiers. -/
inductive CursorType where
  | scalar (b : Builtin)
  | complex (elem : CursorType)
  /-- A pointer or a reference. -/
  | pointer (pointee : CursorType)
  | array (elem : CursorType) (size : Option Int64)
  | function (params : List CursorType) (variadic : Bool) (result : CursorType)
  /-- A type that is named with a keyword or a scope in front. -/
  | elaborated (named : CursorType)
  /-- A type with attributes, which parsers describe only on request. -/
  | attributed (modified : CursorType)
  | typedef (decl : Option String)
  | record (decl : Option String)
  | enum (decl : Option String)
  /-- A type that is not described further, unless its canonical form is another type. -/
  | unexposed (spelling : String) (canonical : Option CursorType)
  | other (spelling : String)
  deriving Repr

namespace CursorType

/-- The type behind a keyword or a scope, of which one is taken off. -/
def stripped : CursorType → CursorType
  | elaborated named => named
  | type => type

def decl? : CursorType → Option String
  | typedef decl => decl
  | record decl => decl
  | enum decl => decl
  | _ => none

def result : CursorType → CursorType
  | function _ _ result => result
  | _ => other ""

def isVariadic : CursorType → Bool
  | function _ isVariadic _ => isVariadic
  | _ => false

end CursorType

/-- How a cursor refers to another one: not in so many words, not at all, or by an identifier. -/
inductive Link where
  | implied
  | absent
  | explicit (id : String)
  deriving Repr, DecidableEq

/-- A cursor with those below it. -/
structure Cursor where
  kind : CursorKind
  id? : Option String := none
  spelling : String := ""
  /-- The name with parameter types. -/
  display : String := ""
  /-- The symbol for the linker. -/
  mangling : String := ""
  /-- What all declarations of the same thing have in common; empty if they have nothing. -/
  usr : String := ""
  comment : String := ""
  isAnonymous : Bool := false
  /-- Who may use a member; all else may be used by all. -/
  access : Access := .publicMember
  location : Location := { file := none }
  /-- The declaration that this one belongs to; it is implied to be the cursor above. -/
  semanticParent : Link := .implied
  /-- The definition of what is declared; it is implied to be the cursor itself. -/
  definition : Link := .implied
  type : CursorType := .other ""
  underlying : CursorType := .other ""
  value : Int64 := 0
  params : List Cursor := []
  /-- Whether the compiler tells how many parameters there are. -/
  tellsParams : Bool := true
  children : List Cursor := []
  deriving Repr

namespace Cursor

/-- The cursor that stands for no declaration. -/
def none : Cursor := { kind := .other "InvalidFile" }

def doc? (c : Cursor) : Option String := if c.comment = "" then .none else some c.comment

mutual

def size : Cursor → Nat
  | { params, children, .. } => sizeOfAll params + sizeOfAll children + 1

def sizeOfAll : List Cursor → Nat
  | [] => 0
  | c :: rest => size c + sizeOfAll rest

end

mutual

/-- The number of cursors on the longest way down. -/
def height : Cursor → Nat
  | { params, children, .. } => max (heightOfAll params) (heightOfAll children) + 1

def heightOfAll : List Cursor → Nat
  | [] => 0
  | c :: rest => max (height c) (heightOfAll rest)

end

end Cursor

/-- A cursor with those above it, nearest first. -/
structure CursorSite where
  cursor : Cursor
  above : List Cursor := []
  deriving Repr

/-- All cursors of a header, below one for the header itself. -/
structure CursorTree where
  root : Cursor
  deriving Repr

namespace CursorTree

mutual

/-- The first cursor with an identifier in a tree that stands below some cursors. -/
def findBelow (id : String) (above : List Cursor) : Cursor → Option CursorSite
  | c@{ id?, params, children, .. } =>
    if id? = some id then some ⟨c, above⟩
    else (findAmong id (c :: above) params).or (findAmong id (c :: above) children)

def findAmong (id : String) (above : List Cursor) : List Cursor → Option CursorSite
  | [] => none
  | c :: rest => (findBelow id above c).or (findAmong id above rest)

end

def find? (t : CursorTree) (id : String) : Option CursorSite := findBelow id [] t.root

/-- The declaration that a type refers to. -/
def declSite (t : CursorTree) (id? : Option String) : CursorSite :=
  (id?.bind t.find?).getD ⟨.none, []⟩

def decl (t : CursorTree) (id? : Option String) : Cursor := (t.declSite id?).cursor

/-- The definition of what a cursor declares, or the cursor itself if there is none. -/
def definition (t : CursorTree) (c : Cursor) : Cursor :=
  match c.definition with
  | .explicit id => ((t.find? id).map (·.cursor)).getD c
  | _ => c

def semanticParent? (t : CursorTree) (s : CursorSite) : Option CursorSite :=
  match s.cursor.semanticParent with
  | .implied =>
    match s.above with
    | [] => none
    | parent :: above => some ⟨parent, above⟩
  | .absent => none
  | .explicit id => t.find? id

/-- The name that a cursor adds to the scope of what it holds. -/
def scopeName? (c : Cursor) : Option String :=
  if c.isAnonymous then none
  else
    match c.kind with
    | .scope => some c.spelling
    | .tagged .enum => none
    | .tagged _ => some c.spelling
    | _ => none

/-- The names of the scopes that lead to a cursor, innermost first. The fuel bounds the number of
steps. -/
def scopesAbove (t : CursorTree) : Nat → CursorSite → List String
  | 0, _ => []
  | fuel + 1, s =>
    match t.semanticParent? s with
    | none => []
    | some parent =>
      if parent.cursor.kind = .unit then []
      else (scopeName? parent.cursor).toList ++ t.scopesAbove fuel parent

/-- The names of the namespaces and classes around a declaration, outermost first. -/
def scope (t : CursorTree) (s : CursorSite) : List String :=
  -- no declaration belongs to itself, so that there are at most as many steps as cursors
  (t.scopesAbove t.root.size s).reverse

end CursorTree

end HeaderBindings
