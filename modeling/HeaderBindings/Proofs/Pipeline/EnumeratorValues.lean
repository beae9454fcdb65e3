import HeaderBindings.Proofs.Cursor.Arrival
import HeaderBindings.Proofs.Header.ReportedValues
import HeaderBindings.Proofs.Session.Growth

/-!
# Enumerators from the compiler to the bindings

The values that the compiler reports for the enumerators of a header are those that are bound for
them, in order, as long as none is negative. One negative value stops the whole enumeration: nothing
of it is bound, and its first negative enumerator is reported (`enumerators_bound_iff`).

The values pass through two readings. The compiler reports a number, the frontend writes it as an
expression, and the loop over the enumerators evaluates this expression again. A number from zero on
is written as a literal that is read as the same number. A negative number is written as a literal
with a sign, which is no literal of C, so it has no value and its enumerator is where the loop stops
(`Enumeration.firstNegative?`).

The statement is made for one enumeration of a tree on its way through the whole pipeline: the
outline arrives at it, a visit of the header is the visit of its declaration, and the package that
the run ends with holds the bindings.
-/

namespace HeaderBindings

open Outline (enumName enumDecl)

/-! ### What is reported -/

/-- The enumerators below a cursor, with the values that the compiler reports. -/
def Cursor.reported (c : Cursor) : List (String × Int64) :=
  (c.children.filter fun child => child.kind = .enumerator).map fun child =>
    (child.spelling, child.value)

/-- The frontend writes each reported value as an expression. -/
theorem CursorTree.enumerators_eq (c : Cursor) :
    enumerators c = c.reported.map Enumeration.reported := by
  rw [Cursor.reported, List.map_map]
  rfl

namespace Session

variable {s : Session} {p : Place} {c : Cursor}

/-! ### The visit of an enumeration

A visit evaluates all enumerators before it declares anything, so that one enumerator without a
value leaves nothing behind but a report of the enumeration.
-/

/-- The bindings of enumerators with reported values. -/
def constants (s : Session) (name : Option String) (items : List (String × Int64)) :
    List Binding :=
  items.map fun e => .const ⟨s.enumeratorName name e.1, e.2, Catalog.enumType⟩

/-- The visit of an enumeration with reported values depends on the first negative one. -/
theorem visit_enumDecl (s : Session) (p : Place) (c : Cursor) :
    s.visit p (enumDecl c) =
      match Enumeration.firstNegative? c.reported with
      | none => (s.declareEnum p (enumDecl c) (enumName c)).bindEnumerators p (enumDecl c)
          (enumName c) ((CursorTree.enumerators c).zip (c.reported.map Prod.snd))
      | some e => s.skip p (enumDecl c) (p.qualified ((enumName c).getD "(anonymous enum)"))
          (.enumeratorValue (.ofInt64 e.2) e.1) := by
  show s.visitEnum p (enumDecl c) (enumName c) (CursorTree.enumerators c) = _
  rw [visitEnum, CursorTree.enumerators_eq, Enumeration.values_reported]
  cases Enumeration.firstNegative? c.reported <;> rfl

/-- **A negative value stops the enumeration**: it is reported, and nothing else happens. -/
theorem visit_enumDecl_of_negative (hholds : p.holds (enumDecl c)) {e : String × Int64}
    (hneg : Enumeration.firstNegative? c.reported = some e) :
    s.visit p (enumDecl c) = { s with
      skipped := s.skipped ++ [⟨p.qualified ((enumName c).getD "(anonymous enum)"), p.file,
        .enumeratorValue (.ofInt64 e.2) e.1⟩] } := by
  rw [visit_enumDecl, hneg]
  exact if_pos hholds

/-- Enumerators that are bound with their reported values. -/
theorem package_bindEnumerators_reported (s : Session) (hholds : p.holds (enumDecl c))
    (hemits : p.emits) :
    (s.bindEnumerators p (enumDecl c) (enumName c)
      ((CursorTree.enumerators c).zip (c.reported.map Prod.snd))).package =
        s.package.pushAll p.file (s.constants (enumName c) c.reported) := by
  have hzip : ((CursorTree.enumerators c).zip (c.reported.map Prod.snd)).map (fun e =>
      Binding.const ⟨s.enumeratorName (enumName c) e.1.name, e.2, Catalog.enumType⟩) =
        s.constants (enumName c) c.reported := by
    rw [CursorTree.enumerators_eq, List.zip_map', List.map_map]
    rfl
  rw [package_bindEnumerators, hholds, hemits]
  exact congrArg (s.package.pushAll p.file) hzip

/-- **Values that are not negative are bound as they are reported**, behind the type of the
enumeration, and there is no report. -/
theorem visit_enumDecl_of_nonneg (s : Session) (hholds : p.holds (enumDecl c)) (hemits : p.emits)
    (hpos : ∀ e ∈ c.reported, 0 ≤ e.2) :
    (s.visit p (enumDecl c)).skipped = s.skipped ∧
      ∃ declared : List Binding, (declared = [] ∨ ∃ b, declared = [.type b]) ∧
        (s.visit p (enumDecl c)).package =
          s.package.pushAll p.file (declared ++ s.constants (enumName c) c.reported) := by
  rw [visit_enumDecl, Enumeration.firstNegative?_eq_none_iff.2 hpos]
  obtain ⟨types, emitted, package, hdeclare⟩ := declareEnum_eq s p (enumDecl c) (enumName c)
  obtain ⟨declared, hdeclared, hpackage⟩ := package_declareEnum s p (enumDecl c) (enumName c)
  have hnames : (s.declareEnum p (enumDecl c) (enumName c)).constants (enumName c) c.reported =
      s.constants (enumName c) c.reported := by
    rw [hdeclare]
    rfl
  constructor
  · obtain ⟨bound, hbound⟩ := bindEnumerators_eq (s.declareEnum p (enumDecl c) (enumName c)) p
      (enumDecl c) (enumName c) ((CursorTree.enumerators c).zip (c.reported.map Prod.snd))
    dsimp only
    rw [hbound, hdeclare]
  · refine ⟨declared, hdeclared, ?_⟩
    dsimp only
    rw [package_bindEnumerators_reported _ hholds hemits, hnames, hpackage,
      Package.pushAll_pushAll]

/-! ### In a header

The visit stands between those before and after it. The ones after it only add to the bindings of
the header, so what is bound for the enumeration is still there at the end of the run.
-/

/-- **An enumeration of the header is bound with the values that the compiler reports if and only if
none of them is negative.**

The tree may hold the enumeration at its top or in any nesting of namespaces. Among the visits of
the header there is one of it, which adds no report and binds all enumerators in order, or else
only reports the first negative one. In the first case the bindings are there at the end. -/
theorem enumerators_bound_iff (options : SessionOptions) {t : CursorTree} {path : String}
    {decls : List Decl} {c : Cursor} {done : Outline.Seen} {later : List Cursor}
    (hreaches : Outline.Reaches t c done later t.root [] t.root.children)
    (hdecls : t.decls? = some decls)
    (hkind : c.kind = .tagged .enum)
    (hnew : c.usr = "" ∨ c.usr ∉ done)
    (hnamed : ¬ (c.isAnonymous ∧ Outline.isNamedIn c later))
    (hfile : c.location.file = some path)
    (hheader : ¬ Catalog.isKnownHeader path) :
    ∃ (p : Place) (before after : List (Place × Decl)) (s : Session),
      HeaderUnit.visits ⟨path, decls⟩ = before ++ (p, enumDecl c) :: after ∧
      s = (start options).visitAll before ∧
      (start options).process ⟨path, decls⟩ = (s.visit p (enumDecl c)).visitAll after ∧
      (((s.visit p (enumDecl c)).skipped = s.skipped ∧
        ∃ declared : List Binding, (declared = [] ∨ ∃ b, declared = [.type b]) ∧
          (s.visit p (enumDecl c)).package =
            s.package.pushAll path (declared ++ s.constants (enumName c) c.reported)) ↔
        ∀ e ∈ c.reported, 0 ≤ e.2) ∧
      (∀ e, Enumeration.firstNegative? c.reported = some e →
        s.visit p (enumDecl c) = { s with
          skipped := s.skipped ++ [⟨p.qualified ((enumName c).getD "(anonymous enum)"), path,
            .enumeratorValue (.ofInt64 e.2) e.1⟩] }) ∧
      ((∀ e ∈ c.reported, 0 ≤ e.2) → ∃ front back,
        ((start options).process ⟨path, decls⟩).package.bound path =
          front ++ (start options).constants (enumName c) c.reported ++ back) := by
  obtain ⟨p, before, after, hp, hvisits⟩ :=
    hreaches.visits_enumDecl hdecls hkind hnew hnamed path
  have hholds : p.holds (enumDecl c) := by
    rw [Place.holds, hp]
    exact decide_eq_true hfile
  have hemits : p.emits := by
    rw [Place.emits, hp, Bool.not_eq_true']
    exact Bool.eq_false_iff.2 hheader
  have hprocess : (start options).process ⟨path, decls⟩ =
      (((start options).visitAll before).visit p (enumDecl c)).visitAll after := by
    rw [process_eq_visitAll, hvisits, visitAll_append, visitAll_cons]
  have hnonneg := visit_enumDecl_of_nonneg ((start options).visitAll before) hholds hemits
  rw [hp] at hnonneg
  refine ⟨p, before, after, _, hvisits, rfl, hprocess, ⟨?_, hnonneg⟩, ?_, ?_⟩
  · rintro ⟨hskipped, -⟩
    rw [← Enumeration.firstNegative?_eq_none_iff]
    -- with a negative value, there would be one report more
    cases hneg : Enumeration.firstNegative? c.reported with
    | none => rfl
    | some e =>
      rw [visit_enumDecl_of_negative hholds hneg] at hskipped
      exact absurd hskipped (by simp)
  · intro e hneg
    rw [visit_enumDecl_of_negative hholds hneg, hp]
  · intro hpos
    obtain ⟨-, declared, -, hpackage⟩ := hnonneg hpos
    -- what is bound by then stays in front of what follows
    obtain ⟨back, hback⟩ := bound_visitAll
      (((start options).visitAll before).visit p (enumDecl c)) path after
    have hnames : ((start options).visitAll before).constants (enumName c) c.reported =
        (start options).constants (enumName c) c.reported := by
      unfold constants enumeratorName
      rw [rules_visitAll]
    refine ⟨((start options).visitAll before).package.bound path ++ declared, back, ?_⟩
    rw [hprocess, ← hback, hpackage, Package.bound_pushAll, if_pos rfl, hnames]
    simp only [List.append_assoc]

/-- An enumerator with the value that is reported for it. -/
def enumeratorCursor (name : String) (value : Int64) : Cursor where
  kind := .enumerator
  spelling := name
  location := { file := some "level.h" }
  value := value

/-- The enumeration `level` of the header `level.h`. -/
def levelEnum (enumerators : List Cursor) : Cursor where
  kind := .tagged .enum
  spelling := "level"
  usr := "c:@E@level"
  location := { file := some "level.h" }
  children := enumerators

/-- A header with the enumeration in a namespace. -/
def levelTree (enumerators : List Cursor) : CursorTree where
  root :=
    { kind := .unit
      children := [
        { kind := .scope
          spelling := "audio"
          location := { file := some "level.h" }
          children := [levelEnum enumerators] }] }

def levelDecls (enumerators : List Cursor) : List Decl :=
  [{ kind := .scope (some "audio")
     children := [enumDecl (levelEnum enumerators)]
     location := { file := some "level.h" }
     access := .publicMember }]

theorem levelTree_reaches (enumerators : List Cursor) :
    Outline.Reaches (levelTree enumerators) (levelEnum enumerators) [] []
      (levelTree enumerators).root [] (levelTree enumerators).root.children :=
  .within rfl (.inl rfl) (.here rfl)

/-- Enumerators with the least and the largest value that is not negative. -/
def levelRange : List Cursor := [enumeratorCursor "MUTE" 0, enumeratorCursor "FULL" Int64.maxValue]

theorem enumerators_bound_levelRange :
    (levelTree levelRange).decls? = some (levelDecls levelRange) ∧
    (∀ e ∈ (levelEnum levelRange).reported, 0 ≤ e.2) ∧
    ∃ front back,
      ((start {}).process ⟨"level.h", levelDecls levelRange⟩).package.bound "level.h" =
        front ++ [.const ⟨"Level_MUTE", 0, .scalar .int⟩,
          .const ⟨"Level_FULL", 9223372036854775807, .scalar .int⟩] ++ back := by
  have hdecls : (levelTree levelRange).decls? = some (levelDecls levelRange) := rfl
  have hpos : ∀ e ∈ (levelEnum levelRange).reported, 0 ≤ e.2 := by decide
  obtain ⟨p, before, after, s, -, -, -, -, -, hbound⟩ :=
    enumerators_bound_iff {} (levelTree_reaches levelRange) hdecls rfl (.inr (by decide))
      (by decide) rfl (by decide +kernel)
  exact ⟨hdecls, hpos, hbound hpos⟩

/-- Enumerators of which the first has a negative value. -/
def levelSigned : List Cursor := [enumeratorCursor "LOW" (-1), enumeratorCursor "HIGH" 1]

/-- An enumeration that is met for the first time in a namespace of the header, and of which no
enumerator is bound: there is a report instead. -/
theorem levelSigned_not_bound :
    Outline.Reaches (levelTree levelSigned) (levelEnum levelSigned) [] []
      (levelTree levelSigned).root [] (levelTree levelSigned).root.children ∧
    (levelEnum levelSigned).kind = .tagged .enum ∧
    (levelEnum levelSigned).usr ∉ ([] : List String) ∧
    (levelEnum levelSigned).isAnonymous = false ∧
    (levelEnum levelSigned).location.file = some "level.h" ∧
    Catalog.isKnownHeader "level.h" = false ∧
    (levelEnum levelSigned).reported = [("LOW", -1), ("HIGH", 1)] ∧
    (levelTree levelSigned).decls? = some (levelDecls levelSigned) ∧
    ((start {}).process ⟨"level.h", levelDecls levelSigned⟩).skipped =
      [⟨"audio::level", "level.h", .enumeratorValue (.literal "-1") "LOW"⟩] ∧
    ((start {}).process ⟨"level.h", levelDecls levelSigned⟩).package.bindings = [] :=
  ⟨levelTree_reaches levelSigned, rfl, by decide, rfl, rfl, by decide +kernel, rfl, rfl, rfl, rfl⟩

end Session

end HeaderBindings
