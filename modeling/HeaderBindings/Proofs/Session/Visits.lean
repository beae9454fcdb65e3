import HeaderBindings.Session.Walk

/-!
# A run is a list of visits

Which declarations a walk visits, at which places and in which order, depends on the declarations
alone and not on the session. So a run folds `visit` over a list, and what every visit preserves,
every run preserves.

A walk is a recursion over declarations that hands the session on, and `visits` is the same
recursion without the session. The two forms of a run, as a fold over visits and as a list of
`Step`s with the session of each, serve different ends: an invariant is carried through the fold
(`visitAll_preserves`), and a result about all functions or all failures of a run is collected from
its steps (`steps_induction`).
-/

namespace HeaderBindings

/-! ### The visits of a walk

The place of a declaration holds the file of its header and what encloses it. It changes on the way
in and is restored on the way out, so visits side by side are independent of each other.
-/

namespace Place

mutual

/-- What a walk through a declaration visits: the declaration itself, and then what is nested in it,
each with its place. -/
def visitsOf (p : Place) : Decl → List (Place × Decl)
  | d@⟨kind, children, _, _, _⟩ =>
    (p, d) :: if kind.isEntered then visits (p.inside kind) children else []

/-- What a walk through some declarations visits, one after the other. -/
def visits (p : Place) : List Decl → List (Place × Decl)
  | [] => []
  | d :: rest => visitsOf p d ++ visits p rest

end

theorem inside_file (p : Place) (kind : DeclKind) : (p.inside kind).file = p.file := by
  unfold inside
  split
  · rfl
  · split <;> rfl
  · rfl

/-- Declarations are visited from the first to the last. -/
theorem visits_append (p : Place) (first second : List Decl) :
    p.visits (first ++ second) = p.visits first ++ p.visits second := by
  induction first with
  | nil => rfl
  | cons d rest ih => rw [List.cons_append, visits, visits, ih, List.append_assoc]

/-- A declaration that the walk enters is visited before those nested in it. -/
theorem visitsOf_of_isEntered (p : Place) {d : Decl} (h : d.kind.isEntered) :
    p.visitsOf d = (p, d) :: (p.inside d.kind).visits d.children := by
  obtain ⟨kind, children, location, access, doc⟩ := d
  rw [visitsOf, if_pos h]

theorem visitsOf_of_not_isEntered (p : Place) {d : Decl} (h : ¬ d.kind.isEntered) :
    p.visitsOf d = [(p, d)] := by
  obtain ⟨kind, children, location, access, doc⟩ := d
  rw [visitsOf, if_neg h]

mutual

theorem file_of_mem_visitsOf (p : Place) : ∀ (d : Decl), ∀ v ∈ p.visitsOf d, v.1.file = p.file
  | ⟨kind, children, location, access, doc⟩, v, hv => by
    rw [visitsOf] at hv
    rcases List.mem_cons.1 hv with rfl | hv
    · rfl
    · split at hv
      · rw [file_of_mem_visits (p.inside kind) children v hv, inside_file]
      · cases hv

/-- All places of a walk are in the same header. -/
theorem file_of_mem_visits (p : Place) : ∀ (ds : List Decl), ∀ v ∈ p.visits ds, v.1.file = p.file
  | [], _, hv => nomatch hv
  | d :: rest, v, hv => by
    rw [visits] at hv
    rcases List.mem_append.1 hv with hv | hv
    · exact file_of_mem_visitsOf p d v hv
    · exact file_of_mem_visits p rest v hv

end

end Place

/-- What a walk through a header visits. -/
def HeaderUnit.visits (u : HeaderUnit) : List (Place × Decl) := Place.visits ⟨u.path, []⟩ u.decls

namespace Session

/-! ### Visits one after the other -/

/-- The session after some visits. -/
def visitAll (s : Session) (visits : List (Place × Decl)) : Session :=
  visits.foldl (fun s v => s.visit v.1 v.2) s

theorem visitAll_cons (s : Session) (v : Place × Decl) (rest : List (Place × Decl)) :
    s.visitAll (v :: rest) = (s.visit v.1 v.2).visitAll rest :=
  rfl

theorem visitAll_append (s : Session) (first second : List (Place × Decl)) :
    s.visitAll (first ++ second) = (s.visitAll first).visitAll second :=
  List.foldl_append

/-- A visit together with the session in which it takes place. -/
structure Step where
  session : Session
  place : Place
  decl : Decl

/-- The session after the visit. -/
def Step.after (v : Step) : Session := v.session.visit v.place v.decl

/-- Visits one after the other, each with the session to which the visits before it have led. -/
def steps (s : Session) : List (Place × Decl) → List Step
  | [] => []
  | v :: rest => ⟨s, v.1, v.2⟩ :: (s.visit v.1 v.2).steps rest

theorem steps_append (s : Session) (first second : List (Place × Decl)) :
    s.steps (first ++ second) = s.steps first ++ (s.visitAll first).steps second := by
  induction first generalizing s with
  | nil => rfl
  | cons v rest ih =>
    rw [List.cons_append, steps, steps, ih, List.cons_append]
    rfl

theorem filterMap_steps_cons {α : Type} (f : Step → Option α) (s : Session) (v : Place × Decl)
    (rest : List (Place × Decl)) :
    (s.steps (v :: rest)).filterMap f =
      (f ⟨s, v.1, v.2⟩).toList ++ ((s.visit v.1 v.2).steps rest).filterMap f := by
  rw [steps, List.filterMap_cons]
  cases f ⟨s, v.1, v.2⟩ <;> rfl

/-- A step among others takes place in the session to which the visits before it have led. -/
theorem exists_of_steps_eq {s : Session} {visits : List (Place × Decl)} {before after : List Step}
    {v : Step} (h : s.steps visits = before ++ v :: after) :
    ∃ first second, visits = first ++ (v.place, v.decl) :: second ∧ before = s.steps first ∧
      v.session = s.visitAll first := by
  induction before generalizing s visits with
  | nil =>
    cases visits with
    | nil => cases h
    | cons w rest =>
      cases h
      exact ⟨[], rest, rfl, rfl, rfl⟩
  | cons b before ih =>
    cases visits with
    | nil => cases h
    | cons w rest =>
      obtain ⟨hb, hrest⟩ := List.cons.inj h
      obtain ⟨first, second, hvisits, hbefore, hsession⟩ := ih hrest
      refine ⟨w :: first, second, ?_, ?_, hsession⟩
      · rw [hvisits, List.cons_append]
      · rw [steps, ← hb, ← hbefore]

theorem exists_visitAll_of_mem_steps {s : Session} {visits : List (Place × Decl)} {v : Step}
    (h : v ∈ s.steps visits) :
    ∃ first second, visits = first ++ (v.place, v.decl) :: second ∧
      v.session = s.visitAll first := by
  obtain ⟨before, after, heq⟩ := List.append_of_mem h
  obtain ⟨first, second, hvisits, -, hsession⟩ := exists_of_steps_eq heq
  exact ⟨first, second, hvisits, hsession⟩

/-- The steps of visits visit nothing else. -/
theorem mem_of_mem_steps {s : Session} {visits : List (Place × Decl)} {v : Step}
    (h : v ∈ s.steps visits) : (v.place, v.decl) ∈ visits := by
  obtain ⟨first, second, rfl, -⟩ := exists_visitAll_of_mem_steps h
  exact List.mem_append_right first List.mem_cons_self

/-- Each visit is made in a step. -/
theorem exists_step_of_mem (s : Session) {visits : List (Place × Decl)} {w : Place × Decl}
    (h : w ∈ visits) : ∃ v ∈ s.steps visits, (v.place, v.decl) = w := by
  obtain ⟨first, second, rfl⟩ := List.append_of_mem h
  refine ⟨⟨s.visitAll first, w.1, w.2⟩, ?_, rfl⟩
  rw [steps_append]
  exact List.mem_append_right _ List.mem_cons_self

/-! ### Walks and runs

By recursion over the declarations, as the walk itself: a visit, and then what is nested in the
declaration if the walk enters it.
-/

mutual

theorem walkDecl_eq_visitAll (p : Place) (s : Session) : ∀ d : Decl,
    walkDecl p s d = s.visitAll (p.visitsOf d)
  | ⟨kind, children, location, access, doc⟩ => by
    rw [walkDecl, Place.visitsOf, visitAll_cons]
    split
    · exact walk_eq_visitAll (p.inside kind) _ children
    · rfl

/-- **A walk is the visits of its declarations, in order.** -/
theorem walk_eq_visitAll (p : Place) (s : Session) : ∀ ds : List Decl,
    walk p s ds = s.visitAll (p.visits ds)
  | [] => rfl
  | d :: rest => by
    rw [walk, Place.visits, visitAll_append, walkDecl_eq_visitAll p s d]
    exact walk_eq_visitAll p _ rest

end

theorem process_eq_visitAll (s : Session) (u : HeaderUnit) : s.process u = s.visitAll u.visits :=
  walk_eq_visitAll ⟨u.path, []⟩ s u.decls

/-- **A run is the visits of its headers, in order.** -/
theorem processAll_eq_visitAll (s : Session) (units : List HeaderUnit) :
    s.processAll units = s.visitAll (units.flatMap HeaderUnit.visits) := by
  induction units generalizing s with
  | nil => rfl
  | cons u rest ih =>
    rw [List.flatMap_cons, visitAll_append, ← process_eq_visitAll]
    exact ih (s.process u)

/-- A declaration without children is visited and nothing else. -/
theorem walkDecl_of_children_eq_nil (p : Place) (s : Session) {d : Decl} (h : d.children = []) :
    walkDecl p s d = s.visit p d := by
  obtain ⟨kind, children, location, access, doc⟩ := d
  cases h
  rw [walkDecl]
  split <;> rfl

/-! ### What a run preserves

Invariants of whole runs are proved by one of the three lemmas below, from what a single visit does.
-/

/-- **Induction on the steps of visits.** What holds of a session before any step, and holds after
each step if it holds after the steps before it, holds after all of them. -/
theorem steps_induction {motive : List Step → Session → Prop} {s : Session}
    {visits : List (Place × Decl)} (h : motive [] s)
    (step : ∀ before, ∀ v ∈ s.steps visits, motive before v.session →
      motive (before ++ [v]) v.after) :
    motive (s.steps visits) (s.visitAll visits) := by
  induction visits generalizing s motive with
  | nil => exact h
  | cons v rest ih =>
    have hfirst := step [] ⟨s, v.1, v.2⟩ List.mem_cons_self h
    rw [steps, visitAll_cons]
    -- the first step stands in front of all that come after it
    exact ih (motive := fun before t => motive (⟨s, v.1, v.2⟩ :: before) t) hfirst
      fun before w hw => step (⟨s, v.1, v.2⟩ :: before) w (List.mem_cons_of_mem _ hw)

/-- **What every visit preserves, a list of visits preserves.** -/
theorem visitAll_preserves {motive : Session → Prop}
    (step : ∀ s p d, motive s → motive (s.visit p d)) {s : Session} (h : motive s)
    (visits : List (Place × Decl)) : motive (s.visitAll visits) :=
  steps_induction (motive := fun _ t => motive t) h fun _ v _ => step v.session v.place v.decl

/-- **What every visit preserves, every run preserves.** -/
theorem processAll_preserves {motive : Session → Prop}
    (step : ∀ s p d, motive s → motive (s.visit p d)) {s : Session} (h : motive s)
    (units : List HeaderUnit) : motive (s.processAll units) := by
  rw [processAll_eq_visitAll]
  exact visitAll_preserves step h _

end Session

end HeaderBindings
