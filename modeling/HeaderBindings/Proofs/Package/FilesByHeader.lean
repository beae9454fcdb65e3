import HeaderBindings.Proofs.Session.Growth
import Mathlib.Data.List.Basic
import Mathlib.Data.List.Induction

/-!
# A package groups what is pushed

However pushes to several headers interleave, each header has one file. Files come in the order of
the first pushes to their headers, and a file holds what was pushed under its header, in order. The
functions, types and constants of a file are its bindings. So nothing is lost, counts twice or
changes places within its file (`pushes_grouped`).
-/

namespace HeaderBindings

/-! ### Kinds of bindings -/

/-- What a view picks from a list stands in the list, in the same order. -/
theorem sublist_of_view {α β : Type} {view? : α → Option β} {back : β → α}
    (h : ∀ a b, view? a = some b → back b = a) (l : List α) :
    ((l.filterMap view?).map back).Sublist l := by
  induction l with
  | nil => exact .slnil
  | cons a l ih =>
    cases hview : view? a with
    | none =>
      rw [List.filterMap_cons_none hview]
      exact ih.cons a
    | some b =>
      rw [List.filterMap_cons_some hview, List.map_cons, h a b hview]
      exact ih.cons_cons a

namespace PackageFile

/-- The functions, types and constants of a file are its bindings, each once, and each kind in
order. -/
structure SplitsByKind (f : PackageFile) : Prop where
  functions : (f.functions.map Binding.function).Sublist f.bindings
  types : (f.types.map Binding.type).Sublist f.bindings
  consts : (f.consts.map Binding.const).Sublist f.bindings
  all : (f.functions.map Binding.function ++ f.types.map Binding.type ++
    f.consts.map Binding.const).Perm f.bindings

theorem perm_kinds (bindings : List Binding) :
    ((bindings.filterMap Binding.function?).map Binding.function ++
      (bindings.filterMap Binding.type?).map Binding.type ++
      (bindings.filterMap Binding.const?).map Binding.const).Perm bindings := by
  induction bindings with
  | nil => exact .refl []
  | cons b bindings ih =>
    -- a binding belongs to one of the three lists, and the others go on without it
    cases b with
    | function b => exact ih.cons _
    | type b =>
      refine .trans ?_ (ih.cons _)
      exact List.perm_middle.append_right _
    | const b =>
      refine .trans ?_ (ih.cons _)
      exact List.perm_middle

/-- **Every file splits by kind.** -/
theorem splitsByKind (f : PackageFile) : f.SplitsByKind where
  functions := sublist_of_view (fun b _ h => by cases b <;> cases h; rfl) f.bindings
  types := sublist_of_view (fun b _ h => by cases b <;> cases h; rfl) f.bindings
  consts := sublist_of_view (fun b _ h => by cases b <;> cases h; rfl) f.bindings
  all := perm_kinds f.bindings

end PackageFile

namespace Package

variable {p : Package} {pushes : List (String × Binding)}

/-! ### Pushes -/

/-- The package after some pushes, each of a binding under a header. -/
def ofPushes (pushes : List (String × Binding)) : Package :=
  pushes.foldl (fun p e => p.push e.1 e.2) {}

/-- What is pushed under a header, in order. -/
def pushedUnder (pushes : List (String × Binding)) (header : String) : List Binding :=
  (pushes.filter (·.1 = header)).map Prod.snd

theorem pushedUnder_append (pushes : List (String × Binding)) (header other : String)
    (b : Binding) : pushedUnder (pushes ++ [(header, b)]) other =
      if other = header then pushedUnder pushes other ++ [b] else pushedUnder pushes other := by
  unfold pushedUnder
  rw [List.filter_append, List.map_append]
  by_cases h : other = header
  · simp [h]
  · simp [h, Ne.symm h]

theorem headers_files (p : Package) : p.files.map PackageFile.header = p.byHeader.keys := by
  rw [files, List.map_map]
  rfl

theorem bindings_of_mem_files {f : PackageFile} (h : f ∈ p.files) :
    f.bindings = p.bound f.header := by
  obtain ⟨⟨header, bindings⟩, hentry, rfl⟩ := List.mem_map.1 h
  rw [bound, OrderedMap.mem_entries_iff.1 hentry, Option.getD_some]

/-- A package holds what was pushed, header by header. -/
structure Groups (p : Package) (pushes : List (String × Binding)) : Prop where
  header : ∀ header, header ∈ p.byHeader.keys ↔ header ∈ pushes.map Prod.fst
  order : p.byHeader.keys.Pairwise fun first second =>
    (pushes.map Prod.fst).idxOf first < (pushes.map Prod.fst).idxOf second
  bound : ∀ header, p.bound header = pushedUnder pushes header
  bindings : p.bindings.Perm (pushes.map Prod.snd)

namespace Groups

theorem start : Groups {} [] where
  header _ := Iff.rfl
  order := .nil
  bound _ := rfl
  bindings := .refl []

/-- The first pushes to the headers that are there stay where they are. -/
theorem order_append (h : Groups p pushes) (header : String) (b : Binding) :
    p.byHeader.keys.Pairwise fun first second =>
      ((pushes ++ [(header, b)]).map Prod.fst).idxOf first <
        ((pushes ++ [(header, b)]).map Prod.fst).idxOf second := by
  refine h.order.imp_of_mem fun hfirst hsecond hlt => ?_
  rw [List.map_append, List.idxOf_append_of_mem ((h.header _).1 hfirst),
    List.idxOf_append_of_mem ((h.header _).1 hsecond)]
  exact hlt

/-- **A push keeps the grouping.** A header that is new comes behind all others, and its first push
is behind all of theirs. -/
theorem push (h : Groups p pushes) (header : String) (b : Binding) :
    Groups (p.push header b) (pushes ++ [(header, b)]) where
  header other := by
    have hinsert : other ∈ (p.push header b).byHeader.keys ↔
        other = header ∨ other ∈ p.byHeader.keys := OrderedMap.mem_insert
    rw [hinsert, h.header, List.map_append, List.mem_append, or_comm]
    simp
  order := by
    have hkeys : (p.push header b).byHeader.keys =
        if header ∈ p.byHeader then p.byHeader.keys else p.byHeader.keys ++ [header] :=
      OrderedMap.keys_insert _ _ _
    rw [hkeys]
    split
    · exact h.order_append header b
    · next hnew =>
      have hnot : header ∉ pushes.map Prod.fst := fun hmem => hnew ((h.header header).2 hmem)
      refine List.pairwise_append.2 ⟨h.order_append header b, List.pairwise_singleton _ _, ?_⟩
      intro first hfirst second hsecond
      obtain rfl := List.mem_singleton.1 hsecond
      have hold := (h.header first).1 hfirst
      rw [List.map_append, List.idxOf_append_of_mem hold, List.idxOf_append_of_notMem hnot]
      exact Nat.lt_of_lt_of_le (List.idxOf_lt_length_of_mem hold) (Nat.le_add_right _ _)
  bound other := by
    rw [bound_push, h.bound, pushedUnder_append]
  bindings := by
    rw [List.map_append]
    exact (p.bindings_push_perm header b).trans
      ((h.bindings.cons b).trans (List.perm_append_singleton b _).symm)

/-- **Any pushes are grouped**, by induction from the last one. -/
theorem ofPushes (pushes : List (String × Binding)) : Groups (.ofPushes pushes) pushes := by
  induction pushes using List.reverseRecOn with
  | nil => exact start
  | append_singleton pushes e ih =>
    have hlast : Package.ofPushes (pushes ++ [e]) = (Package.ofPushes pushes).push e.1 e.2 := by
      rw [Package.ofPushes, List.foldl_append]
      rfl
    rw [hlast]
    exact ih.push e.1 e.2

end Groups

/-- **A package is a stable grouping of what is pushed.**

It has a file for each header that was pushed to, once and in the order of the first pushes, and a
file holds what was pushed under its header, in order. The bindings of the package are those of its
files, one after the other, and up to their order just what was pushed. The functions, types and
constants of a file are its bindings, each in one of the three views and in order. -/
theorem pushes_grouped (pushes : List (String × Binding)) :
    let p := ofPushes pushes
    let pushed := pushes.map Prod.fst
    let headers := p.files.map PackageFile.header
    (∀ header, header ∈ headers ↔ header ∈ pushed) ∧
    headers.Nodup ∧
    (headers.Pairwise fun first second => pushed.idxOf first < pushed.idxOf second) ∧
    (∀ f ∈ p.files, f.bindings = pushedUnder pushes f.header) ∧
    p.bindings = headers.flatMap (pushedUnder pushes) ∧
    p.bindings.Perm (pushes.map Prod.snd) ∧
    ∀ f ∈ p.files, f.SplitsByKind := by
  intro p pushed headers
  have h : Groups p pushes := Groups.ofPushes pushes
  have hheaders : headers = p.byHeader.keys := headers_files p
  have hfile : ∀ f ∈ p.files, f.bindings = pushedUnder pushes f.header := by
    intro f hf
    rw [bindings_of_mem_files hf, h.bound]
  have hall : p.bindings = headers.flatMap (pushedUnder pushes) := by
    rw [bindings, List.flatMap_map]
    exact List.flatMap_congr hfile
  refine ⟨?_, ?_, ?_, hfile, hall, h.bindings, fun f _ => f.splitsByKind⟩
  · rw [hheaders]
    exact h.header
  · rw [hheaders]
    exact p.byHeader.nodup_keys
  · rw [hheaders]
    exact h.order

end Package

end HeaderBindings
