import HeaderBindings.Header.Type

/-!
# Declarations

What a header declares: a forest of namespaces, linkage blocks, records, functions, enumerations
and typedefs, each with the file that holds it.
-/

namespace HeaderBindings

inductive FunctionKind where
  | free | method | constructor | destructor
  deriving Repr, DecidableEq

structure FunctionDecl where
  /-- The bare name, such as `bar`, `Foo` or `~Foo`. -/
  name : String
  /-- The name with its parameter types, such as `bar(int)`. -/
  displayName : String
  /-- The symbol under which the function is linked. -/
  mangledName : String
  kind : FunctionKind
  type : Prototype CType
  deriving Repr

structure Enumerator where
  name : String
  value : Option Constant := none
  deriving Repr, DecidableEq

inductive DeclKind where
  /-- A namespace; an anonymous one has no name. -/
  | scope (name : Option String)
  /-- A block such as `extern "C" { … }`. -/
  | linkage
  /-- A struct, union or class; its members are the children of the declaration. -/
  | record (name : String) (tag : Tag) (fields : List (Slot CType))
  | function (f : FunctionDecl)
  | enum (name : Option String) (items : List Enumerator)
  | typedef (name : String) (underlying : CType)
  /-- Anything else, with the name of its kind. -/
  | unknown (kind : String)
  deriving Repr

structure Location where
  file : Option String
  line : Nat := 0
  column : Nat := 0
  deriving Repr, DecidableEq

/-- Who may use a member of a class. -/
inductive Access where
  | publicMember | privateMember | protectedMember
  deriving Repr, DecidableEq

/-- A declaration together with those nested in it. -/
structure Decl where
  kind : DeclKind
  children : List Decl := []
  location : Location
  access : Access := .privateMember
  doc : Option String := none
  deriving Repr

namespace Decl

def name? (d : Decl) : Option String :=
  match d.kind with
  | .scope name => name
  | .record name _ _ => some name
  | .function f => some f.name
  | .enum name _ => name
  | .typedef name _ => some name
  | .linkage => none
  | .unknown _ => none

def file? (d : Decl) : Option String := d.location.file

end Decl

/-- All declarations that one header brings in, its own and those of the headers it includes. -/
structure HeaderUnit where
  path : String
  decls : List Decl
  deriving Repr

end HeaderBindings
