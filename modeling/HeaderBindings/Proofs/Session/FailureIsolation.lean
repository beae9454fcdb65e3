import HeaderBindings.Proofs.Session.Outcome
import HeaderBindings.Proofs.Session.Simulation

/-!
# A failing declaration leaves nothing behind but its report

A visit whose conversion fails changes only the reports, and no visit looks at the reports made
before it. So the declarations after a failing one are visited as if it were not there, and the run
ends with one report more at the place where the declaration stands.

That no visit looks at earlier reports is stated as an equation: to put reports in front of those of
a session and to walk gives the same, whichever comes first (`walk_precededBy`). It is proved like a
relation between two runs, since a session and the same session with more reports in front are two
sessions that every step treats alike (`simulation_precededBy`).
-/

namespace HeaderBindings.Session

/-- The session with earlier reports in front of its own. -/
def precededBy (s : Session) (earlier : List SkippedDecl) : Session :=
  { s with skipped := earlier ++ s.skipped }

/-! ### No visit looks at earlier reports

Only one step touches the reports, and it adds one at the end. So it does not matter what is in
front.
-/

theorem skip_precededBy (s : Session) (earlier : List SkippedDecl) (p : Place) (d : Decl)
    (label : String) (cause : ConversionError) :
    (s.precededBy earlier).skip p d label cause = (s.skip p d label cause).precededBy earlier := by
  rw [skip_eq, skip_eq]
  unfold precededBy
  dsimp only
  rw [List.append_assoc]

theorem emitType_precededBy (s : Session) (earlier : List SkippedDecl) (p : Place) (d : Decl)
    (target : String) :
    (s.precededBy earlier).emitType p d target = (s.emitType p d target).precededBy earlier := by
  have hemitted : (s.precededBy earlier).emitted = s.emitted := rfl
  have htypes : (s.precededBy earlier).types = s.types := rfl
  unfold emitType
  rw [hemitted, htypes]
  split
  · split <;> rfl
  · rfl

theorem bindEnumerators_precededBy (s : Session) (earlier : List SkippedDecl) (p : Place) (d : Decl)
    (name : Option String) (items : List (Enumerator × Int64)) :
    (s.precededBy earlier).bindEnumerators p d name items =
      (s.bindEnumerators p d name items).precededBy earlier := by
  unfold bindEnumerators
  split <;> rfl

/-- **No step of a visit looks at earlier reports.** -/
theorem simulation_precededBy (earlier : List SkippedDecl) :
    Simulation fun s t => s = t.precededBy earlier where
  alike := by
    rintro s t rfl
    exact ⟨rfl, rfl⟩
  withTypes := by
    rintro s t rfl types
    rfl
  skip := by
    rintro s t rfl p d label cause
    exact skip_precededBy t earlier p d label cause
  emitType := by
    rintro s t rfl p d target
    exact emitType_precededBy t earlier p d target
  bindFunction := by
    rintro s t rfl p d f signature
    rfl
  bindEnumerators := by
    rintro s t rfl p d name items
    exact bindEnumerators_precededBy t earlier p d name items

/-- **No walk looks at earlier reports.** -/
theorem walk_precededBy (s : Session) (earlier : List SkippedDecl) (p : Place) (ds : List Decl) :
    walk p (s.precededBy earlier) ds = (walk p s ds).precededBy earlier :=
  (simulation_precededBy earlier).walk rfl p ds

/-! ### A failing declaration among others

The walk is cut at the failing declaration. In front of it nothing is different, the declaration
adds its report and nothing else, and behind it the walk goes on with a report more in front of
those that it makes.
-/

/-- The report of a declaration that cannot be converted, if it is one of the header itself. -/
def report (p : Place) (d : Decl) (label : String) (cause : ConversionError) : List SkippedDecl :=
  if d.file? = some p.file then [⟨label, p.file, cause⟩] else []

theorem skip_eq_report (s : Session) (p : Place) (d : Decl) (label : String)
    (cause : ConversionError) :
    s.skip p d label cause = { s with skipped := s.skipped ++ report p d label cause } := by
  rw [skip_eq]
  unfold report Place.holds
  simp only [decide_eq_true_eq]

theorem walk_skipped (s : Session) (p : Place) (ds : List Decl) :
    ∃ later, ∀ earlier : List SkippedDecl, walk p { s with skipped := earlier } ds =
      { walk p s ds with skipped := earlier ++ later } := by
  -- walk without any reports, and put the earlier ones in front afterwards
  refine ⟨(walk p { s with skipped := [] } ds).skipped, ?_⟩
  have hwalk : ∀ earlier, walk p { s with skipped := earlier } ds =
      (walk p { s with skipped := [] } ds).precededBy earlier := by
    intro earlier
    rw [← walk_precededBy]
    unfold precededBy
    rw [List.append_nil]
  intro earlier
  have hself : walk p s ds = (walk p { s with skipped := [] } ds).precededBy s.skipped :=
    hwalk s.skipped
  rw [hwalk earlier, hself]
  rfl

/-- **A failing declaration leaves nothing behind but its report.** With it, a walk ends in the
state in which it ends without it, with one report more behind those made before, if the declaration
is one of the header itself, and with the same reports otherwise. -/
theorem process_failing (s : Session) (path : String) (pre post : List Decl) (d : Decl)
    (label : String) (cause : ConversionError) (hchildren : d.children = [])
    (hfails : (s.process ⟨path, pre⟩).FailsAt ⟨path, []⟩ d label cause) :
    ∃ later,
      (s.process ⟨path, pre ++ post⟩).skipped = (s.process ⟨path, pre⟩).skipped ++ later ∧
      s.process ⟨path, pre ++ [d] ++ post⟩ =
        { s.process ⟨path, pre ++ post⟩ with
          skipped := (s.process ⟨path, pre⟩).skipped ++
            (if d.file? = some path then [⟨label, path, cause⟩] else []) ++ later } := by
  unfold process at hfails ⊢
  dsimp only at hfails ⊢
  obtain ⟨later, hlater⟩ := walk_skipped (walk ⟨path, []⟩ s pre) ⟨path, []⟩ post
  have hwithout := hlater (walk ⟨path, []⟩ s pre).skipped
  refine ⟨later, ?_, ?_⟩
  · rw [walk_append]
    exact congrArg skipped hwithout
  · -- the state after the failing declaration is that before it, up to the reports
    have hvisit : walk ⟨path, []⟩ (walk ⟨path, []⟩ s pre) [d] =
        { walk ⟨path, []⟩ s pre with
          skipped := (walk ⟨path, []⟩ s pre).skipped ++ report ⟨path, []⟩ d label cause } := by
      rw [walk, walk, walkDecl_of_children_eq_nil _ _ hchildren, visit_of_failsAt hfails,
        skip_eq_report]
    rw [walk_append, walk_append, walk_append, hvisit, hlater]
    rfl

/-- A struct of the header `list.h`. -/
def listStruct (name : String) (fields : List (Slot CType)) : Decl where
  kind := .record name .struct fields
  location := { file := some "list.h" }

/-- A struct with a known field, which is bound. -/
def listNode : Decl := listStruct "node" [⟨some "value", .builtin .int⟩]

/-- A struct that refers to itself, and then to a type that is not declared. -/
def ownedList : Decl :=
  listStruct "list" [⟨some "next", .pointer (.named ⟨"list", [], none⟩)⟩,
    ⟨some "owner", .named ⟨"owner_t", [], none⟩⟩]

/-- A struct that refers to the failing one, so that it fails as well. -/
def listRing : Decl := listStruct "ring" [⟨some "head", .pointer (.named ⟨"list", [], none⟩)⟩]

theorem process_failing_ownedList :
    ownedList.children = [] ∧
    ((start {}).process ⟨"list.h", [listNode]⟩).FailsAt ⟨"list.h", []⟩ ownedList "list"
      (.unresolvedAlias "owner_t") ∧
    ∃ later,
      ((start {}).process ⟨"list.h", [listNode] ++ [listRing]⟩).skipped =
        ((start {}).process ⟨"list.h", [listNode]⟩).skipped ++ later ∧
      (start {}).process ⟨"list.h", [listNode] ++ [ownedList] ++ [listRing]⟩ =
        { (start {}).process ⟨"list.h", [listNode] ++ [listRing]⟩ with
          skipped := ((start {}).process ⟨"list.h", [listNode]⟩).skipped ++
            [⟨"list", "list.h", .unresolvedAlias "owner_t"⟩] ++ later } := by
  have hfails : ((start {}).process ⟨"list.h", [listNode]⟩).FailsAt ⟨"list.h", []⟩ ownedList
      "list" (.unresolvedAlias "owner_t") :=
    .record rfl (by decide) (by decide +kernel) rfl
  exact ⟨rfl, hfails, process_failing (start {}) "list.h" [listNode] [listRing] ownedList "list"
    (.unresolvedAlias "owner_t") rfl hfails⟩

end HeaderBindings.Session
