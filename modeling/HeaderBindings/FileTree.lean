import HeaderBindings.AccessError
import HeaderBindings.Path
import HeaderBindings.Text.Cut

/-!
# File trees

Directories and files as a value. A path is followed from directory to directory, piece by piece;
empty pieces and `.` stay where they are, `..` goes back, and each of them needs a directory. What
is in the way cannot be followed, and the error tells why: nothing is there, or a file is, or the
name is longer than any name may be.
-/

namespace HeaderBindings

inductive FileTree where
  | file (content : List UInt8)
  | dir (entries : List (String × FileTree))
  deriving Repr

namespace FileTree

def child? (t : FileTree) (name : String) : Option FileTree :=
  match t with
  | file _ => none
  | dir entries => entries.lookup name

/-- What is found behind some names. -/
def find? (t : FileTree) : List String → Option FileTree
  | [] => some t
  | name :: names =>
    match t.child? name with
    | some child => child.find? names
    | none => none

def setEntry (name : String) (new : FileTree) :
    List (String × FileTree) → List (String × FileTree)
  | [] => [(name, new)]
  | (key, old) :: rest =>
    if key = name then (key, new) :: rest else (key, old) :: setEntry name new rest

/-- The tree with a file behind some names, and with the directories that lead to it. -/
def put (content : List UInt8) : List String → FileTree → FileTree
  | [], _ => file content
  | name :: names, t =>
    let entries :=
      match t with
      | dir entries => entries
      | file _ => []
    dir (setEntry name (put content names ((entries.lookup name).getD (dir []))) entries)

mutual

/-- All files with the names that lead to them. -/
def files : FileTree → List (List String × List UInt8)
  | .file content => [([], content)]
  | .dir entries => filesOf entries

def filesOf : List (String × FileTree) → List (List String × List UInt8)
  | [] => []
  | (name, t) :: rest => (files t).map (fun f => (name :: f.1, f.2)) ++ filesOf rest

end

end FileTree

/-- A file tree as seen from one of its directories, to which relative paths refer. -/
structure FileView where
  root : FileTree
  /-- The names that lead to the directory. -/
  here : List String
  deriving Repr

namespace FileView

/-- The largest number of bytes in a name. -/
def maxNameSize : Nat := 255

def maxPathSize : Nat := 4095

/-- Follows a piece of a path from a directory. Places are given by the names that lead to them,
innermost first. -/
def follow (v : FileView) (place : List String) (piece : List Char) :
    Except AccessError (List String) :=
  match v.root.find? place.reverse with
  | none => .error .notFound
  | some (.file _) => .error .notDirectory
  | some (.dir entries) =>
    let name := String.ofList piece
    if piece = [] ∨ piece = ['.'] then .ok place
    else if piece = ['.', '.'] then .ok place.tail
    else if maxNameSize < name.utf8ByteSize then .error .nameTooLong
    else if (entries.lookup name).isNone then .error .notFound
    else .ok (name :: place)

/-- The pieces of a path, which has to be one that the system accepts. -/
def pieces (path : String) : Except AccessError (List (List Char)) :=
  if '\x00' ∈ path.toList then .error .nulInPath
  else if path = "" then .error .notFound
  else if maxPathSize < path.utf8ByteSize then .error .nameTooLong
  else .ok (Path.pieces path.toList)

def start (v : FileView) (path : String) : List String :=
  if Path.isAbsolute path then [] else v.here.reverse

def resolve (v : FileView) (path : String) : Except AccessError (List String) := do
  (← pieces path).foldlM v.follow (v.start path)

def read (v : FileView) (path : String) : Except AccessError (List UInt8) := do
  match v.root.find? (← v.resolve path).reverse with
  | some (.file content) => .ok content
  | some (.dir _) => .error .isDirectory
  | none => .error .notFound

def isFile (v : FileView) (path : String) : Bool :=
  match v.read path with
  | .ok _ => true
  | .error _ => false

/-- Writes a file, which may be there already. Its directory has to exist. -/
def write (v : FileView) (path : String) (content : List UInt8) : Except AccessError FileView := do
  let steps := (← pieces path).reverse
  let proper := steps.dropWhile (· = [])
  -- the directory is looked for before the last piece of the path is
  let place ← (proper.tail.reverse ++ [[]]).foldlM v.follow (v.start path)
  match proper.head? with
  | none => .error .isDirectory
  | some piece =>
    if proper.length < steps.length ∨ piece = ['.'] ∨ piece = ['.', '.'] then
      .error .isDirectory
    else
      match v.follow place piece with
      | .error .notFound =>
        .ok { v with root := v.root.put content (place.reverse ++ [String.ofList piece]) }
      | .error e => .error e
      | .ok target =>
        match v.root.find? target.reverse with
        | some (.dir _) => .error .isDirectory
        | _ => .ok { v with root := v.root.put content target.reverse }

end FileView

end HeaderBindings
