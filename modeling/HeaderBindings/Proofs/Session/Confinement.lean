import HeaderBindings.Proofs.Session.Conservation
import HeaderBindings.Proofs.Session.Extension

/-!
# A walk binds and reports its own header only

A header brings in declarations of other headers. Their types are registered, so that references to
them resolve, and nothing else comes of them: what a declaration of another header names, binds or
reports is left to the walk through that header. For a header that only declares known typedefs no
bindings are made at all. So the files of a package belong to headers of the run for which bindings
are made, and none of them is empty (`process_confined`).

Two tests keep a walk to its header. `Place.holds` asks whether a declaration stands in the header
of the walk: if it does not, only the type of the declaration is registered. `Place.emits` asks
whether bindings are made for the header at all: if they are not, declarations of the header are
treated like any others, but no binding is made of them. A visit makes both tests at different
points for different kinds of declarations, so both are followed through the outcomes of a visit
(`Outcome.of_not_emits`), and then through a run by what every visit preserves.
-/

namespace HeaderBindings

/-! ### Declarations at any depth

A walk enters namespaces, linkage blocks and records, and nothing else. A hypothesis about what
stands anywhere in a header therefore covers all that its walk visits, though the walk may visit
less.
-/

/-- A declaration stands among some declarations, at any depth. -/
inductive Decl.Within (d : Decl) : List Decl → Prop where
  | here {rest} : Within d (d :: rest)
  | nested {outer rest} : Within d outer.children → Within d (outer :: rest)
  | later {other rest} : Within d rest → Within d (other :: rest)

/-- What stands in the first of some declarations stands among them. -/
theorem Decl.Within.of_singleton {d e : Decl} (h : d.Within [e]) (rest : List Decl) :
    d.Within (e :: rest) := by
  cases h with
  | here => exact .here
  | nested h => exact .nested h
  | later h => cases h

namespace Place

mutual

theorem within_of_mem_visitsOf (p : Place) : ∀ (d : Decl), ∀ v ∈ p.visitsOf d, v.2.Within [d]
  | ⟨kind, children, location, access, doc⟩, v, hv => by
    rw [visitsOf] at hv
    rcases List.mem_cons.1 hv with rfl | hv
    · exact .here
    · split at hv
      · exact .nested (within_of_mem_visits (p.inside kind) children v hv)
      · cases hv

/-- A walk visits nothing but what stands among the declarations. -/
theorem within_of_mem_visits (p : Place) : ∀ (ds : List Decl), ∀ v ∈ p.visits ds, v.2.Within ds
  | [], _, hv => nomatch hv
  | d :: rest, v, hv => by
    rw [visits] at hv
    rcases List.mem_append.1 hv with hv | hv
    · exact (within_of_mem_visitsOf p d v hv).of_singleton rest
    · exact .later (within_of_mem_visits p rest v hv)

end

end Place

/-! ### Files of a package

A file comes into being with its first binding, under the header of that binding, and no binding is
ever taken out again. This is what keeps files from being empty.
-/

namespace Package

/-- A package has a file for a header exactly if it has bindings under it. -/
theorem file?_eq_some_iff {p : Package} {header : String} {file : PackageFile} :
    p.file? header = some file ↔ file ∈ p.files ∧ file.header = header := by
  obtain ⟨own, bindings⟩ := file
  have hfile : p.file? header = some ⟨own, bindings⟩ ↔
      p.byHeader.get? header = some bindings ∧ header = own := by
    simp [file?]
  have hmem : (⟨own, bindings⟩ : PackageFile) ∈ p.files ↔
      p.byHeader.get? own = some bindings := by
    simp [files, ← OrderedMap.mem_entries_iff]
  rw [hfile, hmem]
  constructor
  · rintro ⟨hget, rfl⟩
    exact ⟨hget, rfl⟩
  · rintro ⟨hget, rfl⟩
    exact ⟨hget, rfl⟩

/-- No file of a package is empty, and all of them belong to some headers. -/
structure FilesAmong (p : Package) (headers : List String) : Prop where
  bindings : ∀ file ∈ p.files, file.bindings ≠ []
  header : ∀ file ∈ p.files, file.header ∈ headers

variable {p : Package} {headers : List String}

/-- A binding makes no empty file, and a file of its own header at most. -/
theorem FilesAmong.push (h : p.FilesAmong headers) {header : String} (hheader : header ∈ headers)
    (b : Binding) : (p.push header b).FilesAmong headers := by
  have hfile : ∀ file ∈ (p.push header b).files,
      (file.header = header ∧ file.bindings ≠ []) ∨ file ∈ p.files := by
    intro file hmem
    have hown := file?_eq_some_iff.2 ⟨hmem, rfl⟩
    rw [file?_push] at hown
    split at hown
    · next heq =>
      -- the pushed binding comes last in this file
      obtain rfl := Option.some.inj hown
      exact .inl ⟨rfl, by simp⟩
    · exact .inr (file?_eq_some_iff.1 hown).1
  constructor
  · intro file hmem
    rcases hfile file hmem with ⟨-, hne⟩ | hmem
    · exact hne
    · exact h.bindings file hmem
  · intro file hmem
    rcases hfile file hmem with ⟨heq, -⟩ | hmem
    · rw [heq]
      exact hheader
    · exact h.header file hmem

theorem FilesAmong.pushAll (h : p.FilesAmong headers) {header : String} {added : List Binding}
    (hadded : added ≠ [] → header ∈ headers) : (p.pushAll header added).FilesAmong headers := by
  unfold Package.pushAll
  induction added generalizing p with
  | nil => exact h
  | cons b rest ih =>
    have hheader : header ∈ headers := hadded (List.cons_ne_nil b rest)
    exact ih (h.push hheader b) fun _ => hheader

end Package

namespace Session

variable {s t : Session} {p : Place} {d : Decl}

/-! ### Declarations of other headers

Visits outside the header of the walk touch the registry and no other part of the session.
-/

theorem visitAll_types_only {visits : List (Place × Decl)}
    (h : ∀ v ∈ visits, ¬ v.1.holds v.2) : ∃ types, s.visitAll visits = { s with types } := by
  refine steps_induction (motive := fun _ t => ∃ types, t = { s with types }) ⟨s.types, rfl⟩ ?_
  rintro before v hv ⟨types, hsession⟩
  have hforeign : ¬ v.place.holds v.decl := h (v.place, v.decl) (mem_of_mem_steps hv)
  obtain ⟨types', hafter⟩ := (outcome_visit v.session v.place v.decl).types_only hforeign
  refine ⟨types', ?_⟩
  show v.session.visit v.place v.decl = _
  rw [hafter, hsession]

/-! ### Headers without bindings

A header that only declares known typedefs is one of the system headers behind the fixed-width
integers. Its types have a spelling of their own in the target, so nothing has to be bound for them.
What else it declares is still registered and reported, as the witness below shows.
-/

theorem emitType_of_not_emits (h : ¬ p.emits) (target : String) : s.emitType p d target = s := by
  rcases emitType_cases s p d target with heq | ⟨_, -, hemits, -⟩
  · exact heq
  · exact absurd hemits h

/-- **In a header that only declares known typedefs nothing is bound**, not even its own
declarations. -/
theorem Outcome.of_not_emits (h : Outcome s p d t) (hemits : ¬ p.emits) :
    t.package = s.package ∧ t.emitted = s.emitted := by
  have hdeclared : ∀ target type, (s.declareType p d target type).package = s.package ∧
      (s.declareType p d target type).emitted = s.emitted := by
    intro target type
    unfold declareType
    rw [emitType_of_not_emits hemits]
    exact ⟨rfl, rfl⟩
  cases h with
  | passed => exact ⟨rfl, rfl⟩
  | failed =>
    rw [skip_eq]
    exact ⟨rfl, rfl⟩
  | function => exact ⟨if_neg hemits, rfl⟩
  | takenRecord | takenTypedef =>
    rw [emitType_of_not_emits hemits]
    exact ⟨rfl, rfl⟩
  | record | typedef => exact hdeclared _ _
  | @enum name items values =>
    have hsilent : ¬ (p.emits && p.holds d) := fun h => hemits (Bool.and_eq_true_iff.1 h).1
    unfold bindEnumerators
    rw [if_neg hsilent]
    rcases declareEnum_cases s p d name with heq | ⟨target, heq⟩
    · rw [heq]
      exact ⟨rfl, rfl⟩
    · rw [heq]
      exact hdeclared target _

/-- Nor is anything bound by several visits of such headers. -/
theorem visitAll_of_not_emits {visits : List (Place × Decl)} (h : ∀ v ∈ visits, ¬ v.1.emits) :
    (s.visitAll visits).package = s.package ∧ (s.visitAll visits).emitted = s.emitted := by
  refine steps_induction
    (motive := fun _ t => t.package = s.package ∧ t.emitted = s.emitted) ⟨rfl, rfl⟩ ?_
  rintro before v hv ⟨hpackage, hemitted⟩
  have hplace : ¬ v.place.emits := h (v.place, v.decl) (mem_of_mem_steps hv)
  obtain ⟨hpackage', hemitted'⟩ :=
    (outcome_visit v.session v.place v.decl).of_not_emits hplace
  exact ⟨hpackage'.trans hpackage, hemitted'.trans hemitted⟩

/-! ### Runs

The paths under which a run may find files are fixed before it begins. Each visit adds at most a
file for the header of its place, and only if that place emits, so all files stay among these paths.
-/

/-- The headers of a run for which bindings are made. -/
def boundPaths (units : List HeaderUnit) : List String :=
  (units.map HeaderUnit.path).filter fun path => !Catalog.isKnownHeader path

theorem mem_boundPaths {units : List HeaderUnit} {path : String} :
    path ∈ boundPaths units ↔ ∃ u ∈ units, u.path = path ∧ ¬ Catalog.isKnownHeader path := by
  simp only [boundPaths, List.mem_filter, List.mem_map, Bool.not_eq_true', Bool.not_eq_true]
  constructor
  · rintro ⟨⟨u, hu, hpath⟩, hknown⟩
    exact ⟨u, hu, hpath, hknown⟩
  · rintro ⟨u, hu, hpath, hknown⟩
    exact ⟨⟨u, hu, hpath⟩, hknown⟩

theorem filesAmong_visit {headers : List String} (h : s.package.FilesAmong headers) (p : Place)
    (d : Decl) (hfile : p.emits → p.file ∈ headers) :
    (s.visit p d).package.FilesAmong headers := by
  have houtcome := outcome_visit s p d
  by_cases hemits : p.emits
  · obtain ⟨added, hadded⟩ := houtcome.package
    rw [hadded]
    exact h.pushAll fun _ => hfile hemits
  · rw [(houtcome.of_not_emits hemits).1]
    exact h

theorem filesAmong_processAll (options : SessionOptions) (units : List HeaderUnit) :
    ((start options).processAll units).package.FilesAmong (boundPaths units) := by
  have hstart : (start options).package.FilesAmong (boundPaths units) :=
    ⟨fun _ hmem => (nomatch hmem), fun _ hmem => (nomatch hmem)⟩
  rw [processAll_eq_visitAll]
  refine steps_induction (motive := fun _ t => t.package.FilesAmong (boundPaths units)) hstart ?_
  intro before v hv hbefore
  refine filesAmong_visit hbefore v.place v.decl fun hemits => ?_
  obtain ⟨u, hu, hvisit⟩ := List.mem_flatMap.1 (mem_of_mem_steps hv)
  have hpath : v.place.file = u.path := Place.file_of_mem_visits ⟨u.path, []⟩ u.decls _ hvisit
  refine mem_boundPaths.2 ⟨u, hu, hpath.symm, ?_⟩
  simpa [Place.emits] using hemits

/-- **A walk is confined to its own header, and to headers for which bindings are made.**

From any session, a walk through a header none of whose declarations, at any depth, stands in the
header itself changes nothing but the registered types, behind those that were there; and a walk
through a header that only declares known typedefs leaves the package and what counts as bound as
they were. So after any run, every file of the package is found under its own header and has
bindings, and its header is one that was walked through and for which bindings are made. -/
theorem process_confined (s : Session) (options : SessionOptions) (units : List HeaderUnit) :
    (∀ u : HeaderUnit, (∀ d : Decl, d.Within u.decls → d.file? ≠ some u.path) →
      ∃ types, s.process u = { s with types } ∧ s.types.entries <+: types.entries) ∧
    (∀ u : HeaderUnit, Catalog.isKnownHeader u.path →
      (s.process u).package = s.package ∧ (s.process u).emitted = s.emitted) ∧
    let package := ((start options).processAll units).package
    (∀ header file, package.file? header = some file ↔
      file ∈ package.files ∧ file.header = header) ∧
    ∀ file ∈ package.files, file.bindings ≠ [] ∧
      ∃ u ∈ units, u.path = file.header ∧ ¬ Catalog.isKnownHeader u.path := by
  refine ⟨?_, ?_, fun header file => Package.file?_eq_some_iff, ?_⟩
  · intro u hforeign
    have hvisits : ∀ v ∈ u.visits, ¬ v.1.holds v.2 := by
      intro v hv hholds
      have hpath : v.1.file = u.path := Place.file_of_mem_visits ⟨u.path, []⟩ u.decls v hv
      have hfile : v.2.file? = some v.1.file := of_decide_eq_true hholds
      rw [hpath] at hfile
      exact hforeign v.2 (Place.within_of_mem_visits ⟨u.path, []⟩ u.decls v hv) hfile
    obtain ⟨types, htypes⟩ := visitAll_types_only (s := s) hvisits
    have hextends := (extends_visitAll s u.visits).types
    rw [htypes] at hextends
    rw [process_eq_visitAll]
    exact ⟨types, htypes, hextends⟩
  · intro u hknown
    rw [process_eq_visitAll]
    apply visitAll_of_not_emits
    intro v hv hemits
    have hpath : v.1.file = u.path := Place.file_of_mem_visits ⟨u.path, []⟩ u.decls v hv
    rw [Place.emits, hpath, hknown] at hemits
    cases hemits
  · intro file hmem
    have hfiles := filesAmong_processAll options units
    obtain ⟨u, hu, hpath, hknown⟩ := mem_boundPaths.1 (hfiles.header file hmem)
    refine ⟨hfiles.bindings file hmem, u, hu, hpath, ?_⟩
    rw [hpath]
    exact hknown

/-- A struct of the header `point.h`. -/
def pointStruct : Decl where
  kind := .record "point" .struct [⟨some "x", .builtin .int⟩]
  location := { file := some "point.h" }

/-- A header that includes `point.h` in a namespace and declares nothing itself. -/
def mapUnit : HeaderUnit where
  path := "map.h"
  decls := [
    { kind := .scope (some "geo"), children := [pointStruct], location := { file := none } }]

/-- A header of a known typedef, with an enumeration of its own. -/
def int8Unit : HeaderUnit where
  path := "/usr/include/sys/_types/_int8_t.h"
  decls := [
    { kind := .enum (some "sign") [⟨"Minus", none⟩]
      location := { file := some "/usr/include/sys/_types/_int8_t.h" } }]

theorem process_confined_map :
    (∀ d : Decl, d.Within mapUnit.decls → d.file? ≠ some mapUnit.path) ∧
    (∃ types, (start {}).process mapUnit = { start {} with types }) ∧
    ((start {}).process mapUnit).types.keys = ["Point"] ∧
    Catalog.isKnownHeader int8Unit.path ∧
    ((start {}).process int8Unit).package = {} ∧
    ((start {}).process int8Unit).types.keys = ["Sign"] ∧
    let package :=
      ((start {}).processAll [mapUnit, int8Unit, ⟨"point.h", [pointStruct]⟩]).package
    package.files.map PackageFile.header = ["point.h"] ∧
    ∀ file ∈ package.files, file.bindings ≠ [] := by
  have hforeign : ∀ d : Decl, d.Within mapUnit.decls → d.file? ≠ some mapUnit.path := by
    rintro d (_ | (_ | h | h) | h)
    · decide
    · decide
    · cases h
    · cases h
    · cases h
  have hknown : Catalog.isKnownHeader int8Unit.path := by decide +kernel
  obtain ⟨hmap, hint8, -, hfiles⟩ :=
    process_confined (start {}) {} [mapUnit, int8Unit, ⟨"point.h", [pointStruct]⟩]
  obtain ⟨types, htypes, -⟩ := hmap mapUnit hforeign
  exact ⟨hforeign, ⟨types, htypes⟩, by decide +kernel, hknown, (hint8 int8Unit hknown).1,
    by decide +kernel, by decide +kernel, fun file hmem => (hfiles file hmem).1⟩

end Session

end HeaderBindings
