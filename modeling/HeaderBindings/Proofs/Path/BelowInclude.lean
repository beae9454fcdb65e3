import HeaderBindings.Catalog
import Mathlib.Data.List.TakeWhile

/-!
# Headers are told by their place below the include directory

What a path adds to a directory is what its pieces add, one after the other (`named_join`): slashes
and components `.` add nothing. So a path below a directory called `include` is seen in the same way
wherever that directory is and however the whole is spelled, and any other path is left as it is
(`knownHeader_wherever`).

Which headers only declare known typedefs is listed by their place below an include directory, since
that directory is another one on each machine. A path is therefore cut behind its first component
`include`. Paths of the compiler may hold slashes in a row and components `.`, and headers of the
configuration may be joined from a directory and a relative path, so spellings are compared by
components.
-/

namespace HeaderBindings

namespace Path

/-! ### Components one after the other

A path is split at its slashes into pieces, and each piece denotes a component or nothing. Only the
first piece may be special: what a path starts with is looked at on its own.
-/

/-- The components that the pieces of a path denote. What the path starts with is not among them. -/
def named (cs : List Char) : List Component := (pieces cs).filterMap component?

theorem components_eq (path : String) :
    components path = leading path.toList ++ named path.toList := rfl

/-- A slash ends a component. -/
theorem named_append_slash (as bs : List Char) :
    named (as ++ '/' :: bs) = named as ++ named bs := by
  have hcut : pieces (as ++ '/' :: bs) = pieces as ++ pieces bs :=
    Text.splitAtEvery_append (by simp) as bs
  rw [named, hcut, List.filterMap_append, named, named]

/-- Behind a slash, or at the start, a new component begins. -/
theorem named_append {as : List Char} (h : as = [] ∨ as.getLast? = some '/') (bs : List Char) :
    named (as ++ bs) = named as ++ named bs := by
  rcases h with rfl | h
  · rfl
  · obtain ⟨front, rfl⟩ := List.getLast?_eq_some_iff.1 h
    have hfront : named (front ++ ['/']) = named front := by
      rw [named_append_slash, show named [] = [] from rfl, List.append_nil]
    rw [List.append_assoc, List.singleton_append, named_append_slash, hfront]

/-- **Joining adds the components of a relative path** to those of the directory. -/
theorem named_join {path : String} (h : ¬ isAbsolute path) (dir : String) :
    named (join dir path).toList = named dir.toList ++ named path.toList := by
  unfold join
  rw [if_neg h]
  split
  · next hend =>
    rw [String.toList_append]
    apply named_append
    simpa [String.isEmpty_iff] using hend
  · rw [String.toList_append, String.toList_append, List.append_assoc]
    exact named_append_slash dir.toList path.toList

/-! ### What a path starts with

A root, a `.`, or nothing. A `.` is dropped wherever it stands, and a root is no component called
`include`.
-/

/-- A path starts with the root if it is absolute, and otherwise with a `.` at most. -/
theorem leading_cases (cs : List Char) :
    leading cs = [] ∨ leading cs = [.here] ∨ isAbsoluteChars cs ∧ leading cs = [.root] := by
  unfold leading
  split
  · next habsolute => exact .inr (.inr ⟨habsolute, rfl⟩)
  · split
    · exact .inr (.inl rfl)
    · exact .inl rfl

/-- Pieces that are `.` denote nothing. -/
theorem here_not_mem_named (cs : List Char) : .here ∉ named cs := by
  intro h
  obtain ⟨piece, -, hpiece⟩ := List.mem_filterMap.1 h
  unfold component? at hpiece
  split at hpiece
  · cases hpiece
  · split at hpiece <;> cases hpiece

/-- The components of a relative path, but for `.`, are what it adds to a directory. -/
theorem filter_components {path : String} (h : ¬ isAbsolute path) :
    (components path).filter (· ≠ .here) = named path.toList := by
  have hnamed : (named path.toList).filter (· ≠ .here) = named path.toList := by
    rw [List.filter_eq_self]
    intro c hc
    rw [decide_eq_true_iff]
    rintro rfl
    exact here_not_mem_named _ hc
  rw [components_eq, List.filter_append, hnamed]
  rcases leading_cases path.toList with hnone | hhere | ⟨habsolute, -⟩
  · simp [hnone]
  · simp [hhere]
  · exact absurd habsolute h

/-! ### The include directory

The search goes through components from the left, so it finds the outermost directory called
`include`. Without one a path is compared as it is spelled.
-/

/-- The name of the directory, as characters. -/
def includeName : List Char := "include".toList

/-- Whether a path has a component that is called `include`, not only one whose name contains that
word. -/
def HasInclude (path : String) : Prop := .normal includeName ∈ components path

instance (path : String) : Decidable (HasInclude path) :=
  inferInstanceAs (Decidable (.normal includeName ∈ components path))

/-- The components of a path but for `.`, with single slashes between them. -/
def tidied (path : String) : String :=
  Text.joined "/" (((components path).filter (· ≠ .here)).map fun c => String.ofList c.chars)

theorem named_include : named includeName = [.normal includeName] := by decide

/-- What a path starts with is not called `include`. -/
theorem include_not_mem_leading (cs : List Char) : .normal includeName ∉ leading cs := by
  rcases leading_cases cs with hnone | hhere | ⟨-, hroot⟩
  · simp [hnone]
  · simp [hhere]
  · simp [hroot]

/-- The search for the directory passes over components of other names. -/
theorem chars_ne_include {l : List Component} (h : .normal includeName ∉ l) :
    ∀ c ∈ l, decide (c.chars ≠ "include".toList) = true := by
  intro c hc
  rw [decide_eq_true_iff]
  intro hchars
  cases c with
  | root => exact absurd hchars (by decide)
  | here => exact absurd hchars (by decide)
  | parent => exact absurd hchars (by decide)
  | normal name =>
    have hname : name = includeName := hchars
    exact h (hname ▸ hc)

/-- Only the first component called `include` counts. -/
theorem belowInclude_of_split {path : String} {before below : List Component}
    (h : named path.toList = before ++ .normal includeName :: below)
    (hbefore : .normal includeName ∉ before) :
    belowInclude path = Text.joined "/" (below.map fun c => String.ofList c.chars) := by
  have hfront : .normal includeName ∉ leading path.toList ++ before := by
    rw [List.mem_append, not_or]
    exact ⟨include_not_mem_leading _, hbefore⟩
  have hdrop : (components path).dropWhile (·.chars ≠ "include".toList) =
      .normal includeName :: below := by
    rw [components_eq, h, ← List.append_assoc,
      List.dropWhile_append_of_pos (chars_ne_include hfront)]
    exact List.dropWhile_cons_of_neg (by decide)
  rw [belowInclude, hdrop]

/-- A path without such a component is left as it is. -/
theorem belowInclude_of_not_hasInclude {path : String} (h : ¬ HasInclude path) :
    belowInclude path = path := by
  have hdrop : (components path).dropWhile (·.chars ≠ "include".toList) = [] :=
    List.dropWhile_eq_nil_iff.2 (chars_ne_include h)
  rw [belowInclude, hdrop]

/-! ### Wherever the include directory is

Both spellings of a path denote the components of the directory, then `include`, and then those of
the relative path.
-/

/-- The path `path` below the directory `include` of `dir`, with all slashes written out and as
joined from its parts. -/
def spellings (dir path : String) : List String :=
  [dir ++ "/include/" ++ path, join (join dir "include") path]

/-- All spellings denote the same components. -/
theorem named_of_mem_spellings {dir path text : String} (hpath : ¬ isAbsolute path)
    (h : text ∈ spellings dir path) :
    named text.toList = named dir.toList ++ .normal includeName :: named path.toList := by
  rw [spellings, List.mem_cons, List.mem_singleton] at h
  rcases h with rfl | rfl
  · have hmiddle : "/include/".toList = '/' :: (includeName ++ ['/']) := rfl
    rw [String.toList_append, String.toList_append, hmiddle, List.append_assoc, List.cons_append,
      List.append_assoc, List.singleton_append, named_append_slash, named_append_slash,
      named_include, List.singleton_append]
  · have hinclude : ¬ isAbsolute "include" := by decide
    rw [named_join hpath, named_join hinclude, show "include".toList = includeName from rfl,
      named_include, List.append_assoc, List.singleton_append]

/-- **A path below an include directory is seen without that directory.** -/
theorem belowInclude_of_mem_spellings {dir path text : String} (hdir : ¬ HasInclude dir)
    (hpath : ¬ isAbsolute path) (h : text ∈ spellings dir path) :
    belowInclude text = tidied path := by
  have hbefore : .normal includeName ∉ named dir.toList := by
    intro hmem
    exact hdir (List.mem_append_right _ hmem)
  rw [belowInclude_of_split (named_of_mem_spellings hpath h) hbefore, tidied,
    filter_components hpath]

end Path

namespace Catalog

open HeaderBindings.Path (HasInclude belowInclude isAbsolute spellings tidied)

/-- A header is known if it is listed under its path below the include directory. -/
theorem isKnownHeader_iff (path : String) :
    isKnownHeader path ↔ ∃ t ∈ typedefs, t.header = belowInclude path := by
  simp [isKnownHeader]

/-- **Known headers are told wherever their include directory is.**

The directory may be any path without a component `include`. What is below its `include` may have
further components of that name; it is compared by its components alone. A path without a component
`include` is compared as it stands. -/
theorem knownHeader_wherever :
    (∀ dir path text : String, ¬ HasInclude dir → ¬ isAbsolute path → text ∈ spellings dir path →
      belowInclude text = tidied path ∧
      (isKnownHeader text ↔ ∃ t ∈ typedefs, t.header = tidied path)) ∧
    ∀ path : String, ¬ HasInclude path →
      belowInclude path = path ∧ (isKnownHeader path ↔ ∃ t ∈ typedefs, t.header = path) := by
  constructor
  · intro dir path text hdir hpath htext
    have hbelow := Path.belowInclude_of_mem_spellings hdir hpath htext
    exact ⟨hbelow, hbelow ▸ isKnownHeader_iff text⟩
  · intro path hpath
    have hbelow := Path.belowInclude_of_not_hasInclude hpath
    refine ⟨hbelow, ?_⟩
    rw [isKnownHeader_iff, hbelow]

theorem knownHeader_wherever_sdk :
    (¬ HasInclude "/sdk//./includes/.." ∧ ¬ isAbsolute "./sys//_types/_int8_t.h" ∧
      "/sdk//./includes/../include/./sys//_types/_int8_t.h" ∈
        spellings "/sdk//./includes/.." "./sys//_types/_int8_t.h" ∧
      isKnownHeader "/sdk//./includes/../include/./sys//_types/_int8_t.h") ∧
    (¬ HasInclude "" ∧ ¬ isAbsolute "a//include/./b.h" ∧
      "include/a//include/./b.h" ∈ spellings "" "a//include/./b.h" ∧
      belowInclude "include/a//include/./b.h" = "a/include/b.h") ∧
    ¬ HasInclude "./includes//_types/_uint8_t.h" ∧
      ¬ isKnownHeader "./includes//_types/_uint8_t.h" := by
  have hsdk : ¬ HasInclude "/sdk//./includes/.." := by decide +kernel
  have hint8 : ¬ isAbsolute "./sys//_types/_int8_t.h" := by decide +kernel
  have hspelled : "/sdk//./includes/../include/./sys//_types/_int8_t.h" ∈
      spellings "/sdk//./includes/.." "./sys//_types/_int8_t.h" := by decide +kernel
  have hempty : ¬ HasInclude "" := by decide +kernel
  have htwice : ¬ isAbsolute "a//include/./b.h" := by decide +kernel
  have hjoined : "include/a//include/./b.h" ∈ spellings "" "a//include/./b.h" := by decide +kernel
  have hother : ¬ HasInclude "./includes//_types/_uint8_t.h" := by decide +kernel
  refine ⟨⟨hsdk, hint8, hspelled, ?_⟩, ⟨hempty, htwice, hjoined, ?_⟩, hother, ?_⟩
  · rw [(knownHeader_wherever.1 _ _ _ hsdk hint8 hspelled).2]
    decide +kernel
  · rw [(knownHeader_wherever.1 _ _ _ hempty htwice hjoined).1]
    decide +kernel
  · rw [(knownHeader_wherever.2 _ hother).2]
    decide +kernel

end Catalog

end HeaderBindings
