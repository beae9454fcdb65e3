import HeaderBindings.Text.Cut

/-!
# Paths

Paths are texts whose components are separated by slashes. Repeated slashes and components `.` carry
no meaning, except that a leading `.` is kept, and `..` is a component of its own.
-/

namespace HeaderBindings.Path

open HeaderBindings.Text (splitAtEvery)

inductive Component where
  | root
  | here
  | parent
  | normal (name : List Char)
  deriving Repr, DecidableEq

def Component.chars : Component → List Char
  | root => ['/']
  | here => ['.']
  | parent => ['.', '.']
  | normal name => name

/-- The component that a piece between slashes denotes, if it carries meaning. -/
def component? (piece : List Char) : Option Component :=
  if piece = [] ∨ piece = ['.'] then none
  else if piece = ['.', '.'] then some .parent
  else some (.normal piece)

def pieces (cs : List Char) : List (List Char) := splitAtEvery (· = '/') cs

def isAbsoluteChars (cs : List Char) : Bool := cs.head? = some '/'

def isAbsolute (path : String) : Bool := isAbsoluteChars path.toList

/-- What a path starts with before its first proper component. -/
def leading (cs : List Char) : List Component :=
  if isAbsoluteChars cs then [.root]
  else if (pieces cs).head? = some ['.'] then [.here] else []

def components (path : String) : List Component :=
  leading path.toList ++ (pieces path.toList).filterMap component?

/-! ### Names of files -/

/-- The part of a file's name in front of its last dot, or the whole name if nothing stands in front
of that dot. -/
def stem (name : List Char) : List Char :=
  match (name.reverse.dropWhile (· ≠ '.')).drop 1 with
  | [] => name
  | before => before.reverse

/-- The stem of the last component, or the path itself if that is no name. -/
def fileStem (path : String) : String :=
  match (components path).getLast? with
  | some (.normal name) => String.ofList (stem name)
  | _ => path

/-- The path below the first directory called `include`, or the path itself if there is none. -/
def belowInclude (path : String) : String :=
  match (components path).dropWhile (·.chars ≠ "include".toList) with
  | _ :: below => Text.joined "/" (below.map fun c => String.ofList c.chars)
  | [] => path

/-! ### Composition -/

/-- The path `path` as seen from the directory `dir`. -/
def join (dir path : String) : String :=
  if isAbsolute path then path
  else if dir.isEmpty || dir.toList.getLast? = some '/' then dir ++ path
  else dir ++ "/" ++ path

/-- Whether a piece carries no meaning. -/
def isVoid (piece : List Char) : Bool := piece = [] || piece = ['.']

def unpieces (l : List (List Char)) : List Char := List.intercalate ['/'] l

/-- The directory that holds the last component of a path, spelled as in the path. The root and the
empty path are in no directory. -/
def parent? (path : String) : Option String :=
  let cs := path.toList
  let start := if leading cs = [] then [] else cs.take 1
  let body := (pieces (cs.drop start.length)).reverse.dropWhile isVoid
  match body with
  | _ :: before =>
    some (String.ofList (start ++ unpieces (before.dropWhile isVoid).reverse))
  | [] => if start = ['.'] then some "" else none

end HeaderBindings.Path
