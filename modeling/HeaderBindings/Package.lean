import HeaderBindings.Naming.FunctionName
import HeaderBindings.Path
import HeaderBindings.Registry

/-!
# Packages of bindings

The bindings of a run, grouped by the header that declares them: headers in the order in which they
first contributed, and the bindings of each in the order of their declaration.
-/

namespace HeaderBindings

structure FunctionBinding where
  name : FunctionName
  /-- The symbol by which the function is linked. -/
  linkName : String
  signature : Signature TargetType
  doc : Option String
  deriving Repr

structure TypeBinding where
  name : String
  kind : TypeKind
  underlying : TargetType
  doc : Option String
  deriving Repr

structure ConstBinding where
  name : String
  value : Int64
  type : TargetType
  deriving Repr

inductive Binding where
  | function (b : FunctionBinding)
  | type (b : TypeBinding)
  | const (b : ConstBinding)
  deriving Repr

namespace Binding

def name : Binding → String
  | function b => b.name.render
  | type b => b.name
  | const b => b.name

def function? : Binding → Option FunctionBinding
  | function b => some b
  | _ => none

def type? : Binding → Option TypeBinding
  | type b => some b
  | _ => none

def const? : Binding → Option ConstBinding
  | const b => some b
  | _ => none

/-- Enumerators are no types. -/
theorem filterMap_type?_const (consts : List ConstBinding) :
    (consts.map const).filterMap type? = [] := by
  rw [List.filterMap_map]
  exact List.filterMap_eq_nil_iff.2 fun _ _ => rfl

end Binding

structure PackageFile where
  header : String
  bindings : List Binding
  deriving Repr

namespace PackageFile

def functions (f : PackageFile) : List FunctionBinding := f.bindings.filterMap Binding.function?

def types (f : PackageFile) : List TypeBinding := f.bindings.filterMap Binding.type?

def consts (f : PackageFile) : List ConstBinding := f.bindings.filterMap Binding.const?

/-- The name of the output for the header: `foo/bar.h` gives `bar`. -/
def outputName (f : PackageFile) : String := Path.fileStem f.header

end PackageFile

structure Package where
  byHeader : OrderedMap String (List Binding) := ∅

namespace Package

/-- Adds a binding at the end of its header's bindings. -/
def push (p : Package) (header : String) (b : Binding) : Package :=
  ⟨p.byHeader.insert header ((p.byHeader.get? header).getD [] ++ [b])⟩

def file? (p : Package) (header : String) : Option PackageFile :=
  (p.byHeader.get? header).map (⟨header, ·⟩)

/-- All files, in the order of their first binding. -/
def files (p : Package) : List PackageFile := p.byHeader.entries.map fun e => ⟨e.1, e.2⟩

def isEmpty (p : Package) : Bool := p.byHeader.isEmpty

def bindings (p : Package) : List Binding := p.files.flatMap PackageFile.bindings

/-- A pushed binding comes last in its own file, and no other file changes. -/
theorem file?_push (p : Package) (header other : String) (b : Binding) :
    (p.push header b).file? other =
      if other = header then
        some ⟨header, ((p.file? header).map PackageFile.bindings).getD [] ++ [b]⟩
      else p.file? other := by
  simp only [file?, push, OrderedMap.get?_insert]
  by_cases h : other = header
  · subst h
    cases p.byHeader.get? other <;> simp
  · simp [h]

theorem mem_bindings_iff {p : Package} {b : Binding} :
    b ∈ p.bindings ↔ ∃ header bound, p.byHeader.get? header = some bound ∧ b ∈ bound := by
  unfold bindings files
  simp only [List.mem_flatMap, List.mem_map]
  constructor
  · rintro ⟨_, ⟨⟨header, bound⟩, he, rfl⟩, hb⟩
    exact ⟨header, bound, OrderedMap.mem_entries_iff.1 he, hb⟩
  · rintro ⟨header, bound, hget, hb⟩
    exact ⟨⟨header, bound⟩, ⟨_, OrderedMap.mem_entries_iff.2 hget, rfl⟩, hb⟩

theorem mem_bindings_push {p : Package} {header : String} {b other : Binding} :
    other ∈ (p.push header b).bindings ↔ other = b ∨ other ∈ p.bindings := by
  simp only [mem_bindings_iff, push, OrderedMap.get?_insert]
  constructor
  · rintro ⟨header', bound, hget, hother⟩
    split at hget
    · cases hget
      rcases List.mem_append.1 hother with hother | hother
      · cases hbound : p.byHeader.get? header with
        | none =>
          rw [hbound] at hother
          cases hother
        | some bound =>
          rw [hbound] at hother
          exact .inr ⟨header, bound, hbound, hother⟩
      · exact .inl (List.mem_singleton.1 hother)
    · exact .inr ⟨header', bound, hget, hother⟩
  · rintro (rfl | ⟨header', bound, hget, hother⟩)
    · exact ⟨header, _, if_pos rfl, List.mem_append_right _ (List.mem_singleton_self _)⟩
    · by_cases heq : header' = header
      · refine ⟨header, _, if_pos rfl, List.mem_append_left _ ?_⟩
        rw [← heq, hget]
        exact hother
      · exact ⟨header', bound, (if_neg heq).trans hget, hother⟩

theorem mem_bindings_foldl_push {header : String} {other : Binding} {added : List Binding}
    {p : Package} :
    other ∈ (added.foldl (·.push header ·) p).bindings ↔ other ∈ added ∨ other ∈ p.bindings := by
  induction added generalizing p with
  | nil => simp
  | cons b rest ih =>
    rw [List.foldl_cons, ih, mem_bindings_push, List.mem_cons, or_left_comm, or_assoc]

end Package

end HeaderBindings
