import HeaderBindings.Session.Visit

/-!
# Walking through a header

The declarations of a header are visited depth first, each one before those nested in it. Only
namespaces, linkage blocks and records are entered.
-/

namespace HeaderBindings

/-- Whether the walk goes on to the declarations nested in one of this kind. -/
def DeclKind.isEntered : DeclKind → Bool
  | .scope _ | .linkage | .record _ _ _ => true
  | .function _ | .enum _ _ | .typedef _ _ | .unknown _ => false

namespace Session

mutual

def walkDecl (p : Place) (s : Session) : Decl → Session
  | d@⟨kind, children, _, _, _⟩ =>
    if kind.isEntered then walk (p.inside kind) (s.visit p d) children else s.visit p d

def walk (p : Place) (s : Session) : List Decl → Session
  | [] => s
  | d :: rest => walk p (walkDecl p s d) rest

end

theorem walk_append (p : Place) : ∀ (s : Session) (first second : List Decl),
    walk p s (first ++ second) = walk p (walk p s first) second
  | _, [], _ => by simp [walk]
  | s, d :: rest, second => by simp [walk, walk_append p (walkDecl p s d) rest second]

def process (s : Session) (u : HeaderUnit) : Session := walk ⟨u.path, []⟩ s u.decls

def processAll (s : Session) (units : List HeaderUnit) : Session := units.foldl process s

end Session

end HeaderBindings
