import HeaderBindings.Config
import Mathlib.Data.List.Forall2

/-!
# All headers are found, or none

A header is found at its own path if that is absolute, and otherwise below the first include
directory in which it is a file (`FoundAt`). A configuration gives the paths of its headers, one for
each and in their order, exactly if all of them are found. Otherwise it gives none, but says which
ones are missing (`headerPaths_all_or_none`).
-/

namespace HeaderBindings.Config

variable {isFile : String → Bool} {dirs : List String} {header path : String}

/-! ### Where a header is found -/

/-- A header is found at a path: at its own one if that is absolute, and otherwise as seen from the
first directory in which it is a file. -/
inductive FoundAt (isFile : String → Bool) (dirs : List String) (header : String) :
    String → Prop where
  | absolute : Path.isAbsolute header → isFile header → FoundAt isFile dirs header header
  | below {before : List String} {dir : String} {after : List String} :
    Path.isAbsolute header = false → dirs = before ++ dir :: after →
    (∀ earlier ∈ before, isFile (Path.join earlier header) = false) →
    isFile (Path.join dir header) → FoundAt isFile dirs header (Path.join dir header)

/-- **The path that is looked up is the one at which the header is found.** -/
theorem locate?_eq_some_iff :
    locate? isFile dirs header = some path ↔ FoundAt isFile dirs header path := by
  unfold locate? candidates
  constructor
  · intro h
    split at h
    · next habsolute =>
      obtain ⟨hfile, heq⟩ : isFile header ∧ header = path := by
        simpa [List.find?_cons_eq_some] using h
      rw [← heq]
      exact .absolute habsolute hfile
    · next hrelative =>
      rw [List.find?_map, Option.map_eq_some_iff] at h
      obtain ⟨dir, hdir, rfl⟩ := h
      obtain ⟨hfile, before, after, hdirs, hbefore⟩ := List.find?_eq_some_iff_append.1 hdir
      exact .below (Bool.eq_false_iff.2 hrelative) hdirs
        (fun earlier hearlier => by simpa using hbefore earlier hearlier) hfile
  · intro h
    cases h with
    | absolute habsolute hfile =>
      rw [if_pos habsolute, List.find?_cons_of_pos hfile]
    | @below before dir after hrelative hdirs hbefore hfile =>
      rw [hrelative, if_neg Bool.false_ne_true, List.find?_map]
      have hdir : dirs.find? (isFile ∘ (Path.join · header)) = some dir :=
        List.find?_eq_some_iff_append.2
          ⟨hfile, before, after, hdirs, fun earlier hearlier => by simp [hbefore earlier hearlier]⟩
      rw [hdir, Option.map_some]

/-- A header is found somewhere. -/
def Found (isFile : String → Bool) (dirs : List String) (header : String) : Prop :=
  ∃ path, FoundAt isFile dirs header path

theorem isSome_locate?_iff : (locate? isFile dirs header).isSome ↔ Found isFile dirs header := by
  simp only [Option.isSome_iff_exists, locate?_eq_some_iff, Found]

instance : DecidablePred (Found isFile dirs) := fun _ => decidable_of_iff _ isSome_locate?_iff

/-! ### Where all headers are found -/

/-- **Images of all elements of a list, one for each, are what a search gives that misses none.** -/
theorem forall₂_find?_iff {α β : Type} {find? : α → Option β} {l : List α} {images : List β} :
    List.Forall₂ (fun a b => find? a = some b) l images ↔
      (∀ a ∈ l, (find? a).isSome) ∧ l.filterMap find? = images := by
  constructor
  · intro h
    induction h with
    | nil => simp
    | cons hb _ ih =>
      rw [List.forall_mem_cons, hb, List.filterMap_cons_some hb, ih.2]
      exact ⟨⟨rfl, ih.1⟩, rfl⟩
  · rintro ⟨h, rfl⟩
    induction l with
    | nil => exact .nil
    | cons a l ih =>
      obtain ⟨b, hb⟩ := Option.isSome_iff_exists.1 (h a List.mem_cons_self)
      rw [List.filterMap_cons_some hb]
      exact .cons hb (ih fun other hother => h other (List.mem_cons_of_mem a hother))

/-- Headers have paths, one for each, exactly if all are found, and those are the paths. -/
theorem forall₂_foundAt_iff {headers paths : List String} :
    List.Forall₂ (FoundAt isFile dirs) headers paths ↔
      (∀ header ∈ headers, Found isFile dirs header) ∧
        headers.filterMap (locate? isFile dirs) = paths := by
  have heq : FoundAt isFile dirs = fun header path => locate? isFile dirs header = some path := by
    funext header path
    exact propext locate?_eq_some_iff.symm
  rw [heq, forall₂_find?_iff]
  simp only [isSome_locate?_iff]

/-! ### The headers of a configuration -/

variable {s : Surroundings} {c : Config}

/-- The headers of a configuration that are found nowhere, in its order. -/
def missing (s : Surroundings) (c : Config) : List String :=
  c.headers.filter fun header => ¬ Found s.isFile (c.includeDirs s) header

theorem missing_eq_nil_iff :
    c.missing s = [] ↔ ∀ header ∈ c.headers, Found s.isFile (c.includeDirs s) header := by
  simp [missing]

/-- The headers that are reported are those that are found nowhere. -/
theorem filter_isNone_locate? :
    (c.headers.filter fun header => (locate? s.isFile (c.includeDirs s) header).isNone) =
      c.missing s := by
  apply List.filter_congr
  intro header _
  rw [Bool.eq_iff_iff, decide_eq_true_iff, ← isSome_locate?_iff, Option.isNone_iff_eq_none,
    Option.not_isSome_iff_eq_none]

/-- **What a configuration gives**: no headers are an error, and so are missing ones; otherwise
there are paths. -/
theorem headerPaths_cases (s : Surroundings) (c : Config) :
    (c.headers = [] ∧ c.headerPaths s = .error .noHeaders) ∨
    (c.headers ≠ [] ∧ c.missing s ≠ [] ∧
      c.headerPaths s = .error (.headersNotFound (c.missing s))) ∨
    (c.headers ≠ [] ∧ c.missing s = [] ∧
      c.headerPaths s = .ok (c.headers.filterMap (locate? s.isFile (c.includeDirs s)))) := by
  by_cases hne : c.headers = []
  · exact .inl ⟨hne, if_pos hne⟩
  · refine .inr ?_
    rw [headerPaths, if_neg hne]
    dsimp only
    rw [filter_isNone_locate?]
    split
    · next hmissing => exact .inr ⟨hne, hmissing, rfl⟩
    · next hmissing => exact .inl ⟨hne, hmissing, rfl⟩

/-- **A configuration without headers is refused.** -/
theorem headerPaths_eq_noHeaders_iff : c.headerPaths s = .error .noHeaders ↔ c.headers = [] := by
  obtain ⟨hempty, heq⟩ | ⟨hne, -, heq⟩ | ⟨hne, -, heq⟩ := headerPaths_cases s c
  · simp [heq, hempty]
  · simp [heq, hne]
  · simp [heq, hne]

/-- **The paths are given at which the headers are found, one for each.** -/
theorem headerPaths_eq_ok_iff {paths : List String} :
    c.headerPaths s = .ok paths ↔
      c.headers ≠ [] ∧ List.Forall₂ (FoundAt s.isFile (c.includeDirs s)) c.headers paths := by
  rw [forall₂_foundAt_iff, ← missing_eq_nil_iff]
  obtain ⟨hempty, heq⟩ | ⟨-, hmissing, heq⟩ | ⟨hne, hmissing, heq⟩ := headerPaths_cases s c
  · simp [heq, hempty]
  · simp [heq, hmissing]
  · simp [heq, hne, hmissing]

/-- **Headers are reported exactly if they are those that are missing.** -/
theorem headerPaths_eq_headersNotFound_iff {headers : List String} :
    c.headerPaths s = .error (.headersNotFound headers) ↔
      c.missing s ≠ [] ∧ headers = c.missing s := by
  obtain ⟨hempty, heq⟩ | ⟨-, hmissing, heq⟩ | ⟨-, hmissing, heq⟩ := headerPaths_cases s c
  · simp [heq, missing, hempty]
  · simp [heq, hmissing, eq_comm]
  · simp [heq, hmissing]

/-- **Headers are found all or none.**

A configuration without headers is refused. Any other gives paths exactly if each of its headers is
found, and gives one path for each header then, in the order of the configuration: the header itself
if it is absolute, and otherwise the header as seen from the first include directory in which it is
a file. If some headers are not found it fails, and reports just these, in the order in which they
are listed and as often. -/
theorem headerPaths_all_or_none (s : Surroundings) (c : Config) :
    (c.headerPaths s = .error .noHeaders ↔ c.headers = []) ∧
    ((∃ paths, c.headerPaths s = .ok paths) ↔
      c.headers ≠ [] ∧ ∀ header ∈ c.headers, Found s.isFile (c.includeDirs s) header) ∧
    (∀ paths, c.headerPaths s = .ok paths ↔
      c.headers ≠ [] ∧ List.Forall₂ (FoundAt s.isFile (c.includeDirs s)) c.headers paths) ∧
    ∀ headers, c.headerPaths s = .error (.headersNotFound headers) ↔
      c.missing s ≠ [] ∧ headers = c.missing s := by
  refine ⟨headerPaths_eq_noHeaders_iff, ?_, fun paths => headerPaths_eq_ok_iff,
    fun headers => headerPaths_eq_headersNotFound_iff⟩
  -- the paths of headers that are all found are those that are looked up
  simp only [headerPaths_eq_ok_iff, forall₂_foundAt_iff, exists_and_left, exists_eq', and_true]

-- a header that is found does not count as long as another one is missing
example :
    let s : Surroundings :=
      { read := fun _ => .error .notFound, isFile := fun path => path = "/b/lua.h"
        valueOf? := fun _ => none, output? := fun _ _ => none }
    let c : Config := { cflags := "-I/a -I/b" }
    ((c.addHeader "lua.h").headerPaths s = .ok ["/b/lua.h"]) ∧
    (((c.addHeader "gone.h").addHeader "lua.h").addHeader "gone.h").headerPaths s =
      .error (.headersNotFound ["gone.h", "gone.h"]) :=
  ⟨rfl, rfl⟩

end HeaderBindings.Config
