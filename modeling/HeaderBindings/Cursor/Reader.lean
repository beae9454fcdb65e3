import HeaderBindings.Cursor
import HeaderBindings.Json.Reader
import HeaderBindings.Text.Word

/-!
# Reading cursor trees

A cursor tree is written as a JSON object: the cursors of a header, and what the compiler had to say
about it. Members that are missing or of an unexpected kind have defaults.
-/

namespace HeaderBindings

structure Diagnostic where
  severity : Nat
  text : String
  deriving Repr, DecidableEq

def Diagnostic.isError (d : Diagnostic) : Bool := 3 ≤ d.severity

/-- What the compiler reports for a header. -/
structure CursorReport where
  tree : CursorTree
  diagnostics : List Diagnostic
  deriving Repr

namespace Json

/-- The text of a member, or the empty text. -/
def textAt (j : Json) (name : String) : String := ((j.member? name).bind text?).getD ""

def flagAt (j : Json) (name : String) : Bool := ((j.member? name).bind bool?).getD false

def elemsAt (j : Json) (name : String) : List Json := ((j.member? name).bind elems?).getD []

/-- The number of a member that is written with digits only, or zero. -/
def countAt (j : Json) (name : String) : Nat :=
  match j.member? name with
  | some (.number spelling) => (Text.number? 10 spelling.toList).getD 0
  | _ => 0

/-- The signed 64-bit number of a member that is written as a text, or zero. -/
def int64At (j : Json) (name : String) : Int64 := (Text.int64? (j.textAt name)).getD 0

end Json

/-! ### Types -/

namespace CursorType

/-- The scalar types by the names of their kinds. Plain `char` has the sign that its kind says. -/
def scalars : List (String × Builtin) :=
  [("Void", .void),
   ("Bool", ⟨.bool, {}⟩),
   ("Char_S", ⟨.char, { signed := true }⟩),
   ("SChar", ⟨.char, { signed := true }⟩),
   ("Char_U", ⟨.char, { unsigned := true }⟩),
   ("UChar", ⟨.char, { unsigned := true }⟩),
   ("WChar", ⟨.wchar, {}⟩),
   ("Char16", ⟨.char16, {}⟩),
   ("Char32", ⟨.char32, {}⟩),
   ("Short", ⟨.int, { short := true }⟩),
   ("UShort", ⟨.int, { short := true, unsigned := true }⟩),
   ("Int", .int),
   ("UInt", ⟨.int, { unsigned := true }⟩),
   ("Long", ⟨.int, { long := true }⟩),
   ("ULong", ⟨.int, { long := true, unsigned := true }⟩),
   ("LongLong", ⟨.int, { longLong := true }⟩),
   ("ULongLong", ⟨.int, { longLong := true, unsigned := true }⟩),
   ("Float", ⟨.float, {}⟩),
   ("Double", .double),
   ("LongDouble", ⟨.float, { double := true, long := true }⟩)]

/-- Reads a type: the name of a kind, or an object with that name and what else the kind has. The
fuel bounds the depth. -/
def ofJson : (fuel : Nat) → Json → CursorType
  | 0, _ => .other ""
  | fuel + 1, j =>
    let kind := j.text?.getD (j.textAt "k")
    let part := fun name => ((j.member? name).map (ofJson fuel)).getD (.other "")
    let decl := (j.member? "decl").bind Json.text?
    match kind with
    | "Complex" => .complex (part "elem")
    | "Pointer" => .pointer (part "to")
    | "LValueReference" => .pointer (part "to")
    | "RValueReference" => .pointer (part "to")
    | "ConstantArray" => .array (part "elem") (some (j.int64At "size"))
    | "IncompleteArray" => .array (part "elem") none
    | "VariableArray" => .array (part "elem") none
    | "DependentSizedArray" => .array (part "elem") none
    | "FunctionProto" =>
      .function ((j.elemsAt "args").map (ofJson fuel)) (j.flagAt "variadic") (part "ret")
    | "FunctionNoProto" => .function [] false (part "ret")
    | "Elaborated" => .elaborated (part "named")
    | "Attributed" => .attributed (part "modified")
    | "Typedef" => .typedef decl
    | "Record" => .record decl
    | "Enum" => .enum decl
    | "Unexposed" =>
      .unexposed (j.textAt "spelling") ((j.member? "canonical").map (ofJson fuel))
    | kind =>
      match scalars.lookup kind with
      | some b => .scalar b
      | none => .other (j.textAt "spelling")

end CursorType

/-! ### Cursors -/

namespace CursorKind

/-- The kinds that have a meaning of their own. -/
def all : List CursorKind :=
  [.scope, .linkage, .tagged .struct, .tagged .union, .tagged .classTag, .tagged .enum, .enumerator,
   .field, .function .free, .function .method, .function .constructor, .function .destructor,
   .typedef, .accessLabel, .unit]

def otherNames : List String :=
  ["ParmDecl", "VarDecl", "ClassTemplate", "FunctionTemplate", "ConversionFunction",
   "UsingDirective", "TypeAliasDecl", "StaticAssert", "CXXBaseSpecifier"]

def ofName (name : String) : CursorKind :=
  match all.find? fun kind => kind.name = name with
  | some kind => kind
  | none => .other (if name ∈ otherNames then name else "UnexposedDecl")

end CursorKind

def Access.ofName : String → Access
  | "protected" => .protectedMember
  | "private" => .privateMember
  | _ => .publicMember

def Link.ofJson : Option Json → Link
  | none => .implied
  | some j =>
    match j.text? with
    | some id => .explicit id
    | none => .absent

namespace Cursor

/-- Reads a cursor in the file `path`. The fuel bounds the depth. -/
def ofJson (path : String) : (fuel : Nat) → Json → Cursor
  | 0, _ => .none
  | fuel + 1, j =>
    let type := fun (name : String) =>
      ((j.member? name).map (CursorType.ofJson fuel)).getD (.other "")
    { kind := .ofName (j.textAt "kind")
      id? := (j.member? "id").bind Json.text?
      spelling := j.textAt "spelling"
      display := ((j.member? "display").bind Json.text?).getD (j.textAt "spelling")
      mangling := j.textAt "mangling"
      usr := j.textAt "usr"
      comment := j.textAt "comment"
      isAnonymous := j.flagAt "anonymous"
      access := .ofName (j.textAt "access")
      location :=
        { file := match j.member? "file" with
            | some file => file.text?
            | .none => some path
          line := j.countAt "line"
          column := j.countAt "column" }
      semanticParent := .ofJson (j.member? "semantic")
      definition := .ofJson (j.member? "definition")
      type := type "type"
      underlying := type "underlying"
      value := j.int64At "value"
      params := (j.elemsAt "args").map (ofJson path fuel)
      tellsParams := (j.member? "noargs").isNone
      children := (j.elemsAt "children").map (ofJson path fuel) }

end Cursor

namespace CursorReport

/-- The identifier of the cursor for the header itself. -/
def rootId : String := "tu"

/-- What stands for the command line in remarks. -/
def commandLineMark : String := "@ARGS@"

def diagnosticOfJson (commandLine : String) (j : Json) : Diagnostic :=
  ⟨j.countAt "severity", Text.substitute (j.textAt "text") commandLineMark commandLine⟩

/-- Reads what the compiler reports for the header `path`, given its command line. -/
def ofJson (path commandLine : String) (j : Json) : CursorReport where
  tree :=
    ⟨{ kind := .unit
       id? := some rootId
       location := { file := some path }
       children := (j.elemsAt "children").map (Cursor.ofJson path (j.depth + 1)) }⟩
  diagnostics := (j.elemsAt "diagnostics").map (diagnosticOfJson commandLine)

/-- The deepest nesting that a reader accepts. -/
def maxDepth : Nat := 127

/-- Reads the text of a report, which is an object. -/
def read? (path commandLine text : String) : Option CursorReport := do
  let j ← Json.read? text
  match j with
  | .object _ =>
    if j.depth ≤ maxDepth ∧ j.hasTexts then some (ofJson path commandLine j) else none
  | _ => none

end CursorReport

end HeaderBindings
