import HeaderBindings.Config
import Mathlib.Data.List.Basic

/-!
# Directories that flags name

A flag `-I` or `-isystem` takes the argument behind it as its operand, whatever that is, and an
operand is not read as a flag. So every argument plays one part, and the directories are those that
are operands of flags or attached to them, in order. There is one exception. A bare `-I` with no
argument behind it names no directory, but it is read like a flag with a directory attached, and
counts for the empty one (`includeDirs_eq_namedDirs_iff`). Headers are then looked for in the
working directory.
-/

namespace HeaderBindings

/-- A path is the same as seen from a directory only if this is the empty one. -/
theorem Path.join_eq_self_iff {dir header : String} (h : isAbsolute header = false) :
    join dir header = header ↔ dir = "" := by
  constructor
  · intro hjoin
    have hlength := congrArg String.length hjoin
    unfold join at hlength
    rw [h, if_neg Bool.false_ne_true] at hlength
    rw [← String.length_eq_zero_iff]
    split at hlength
    all_goals
      simp only [String.length_append] at hlength
      omega
  · rintro rfl
    unfold join
    rw [h, if_neg Bool.false_ne_true]
    exact (if_pos rfl).trans String.empty_append

namespace Flags

/-! ### The parts of arguments -/

/-- Whether an argument is a flag that takes the next one as its operand. -/
def takesOperand (arg : String) : Bool := arg = "-I" || arg = "-isystem"

theorem takesOperand_iff {arg : String} : takesOperand arg ↔ arg = "-I" ∨ arg = "-isystem" := by
  simp [takesOperand]

/-- Whether the argument at a position is the operand of the flag in front of it. -/
def isOperand (args : List String) : Nat → Bool
  | 0 => false
  | i + 1 => args[i]?.any takesOperand && !isOperand args i

/-- The directory that stands behind `-I` in the same argument, if there is anything. -/
def attachedDir? (arg : String) : Option String :=
  match arg.toList with
  | '-' :: 'I' :: c :: cs => some (String.ofList (c :: cs))
  | _ => none

/-- The directory that the argument at a position names. -/
def namedDir? (args : List String) (i : Nat) : Option String :=
  match args[i]? with
  | none => none
  | some arg =>
    if isOperand args i then none
    else if takesOperand arg then args[i + 1]?
    else attachedDir? arg

/-- The directories that arguments name, in the order in which they name them. -/
def namedDirs (args : List String) : List String :=
  (List.range args.length).filterMap (namedDir? args)

/-- Whether the last argument is a flag `-I`, which has no operand then. -/
def endsInBareFlag (args : List String) : Bool :=
  args.getLast? = some "-I" && !isOperand args (args.length - 1)

/-! ### Arguments behind the first ones -/

section Behind

variable {arg flag dir : String} {args rest : List String}

/-- Behind an argument that takes no operand, the others have the same parts as without it. -/
theorem isOperand_cons (h : takesOperand arg = false) (i : Nat) :
    isOperand (arg :: args) (i + 1) = isOperand args i := by
  induction i with
  | zero => simp [isOperand, h]
  | succ i ih => rw [isOperand, ih, List.getElem?_cons_succ, isOperand]

/-- Behind a flag and its operand, the others have the same parts as without these. -/
theorem isOperand_cons_cons (h : takesOperand flag) (i : Nat) :
    isOperand (flag :: dir :: rest) (i + 2) = isOperand rest i := by
  induction i with
  | zero => simp [isOperand, h]
  | succ i ih =>
    rw [isOperand, ih, List.getElem?_cons_succ, List.getElem?_cons_succ, isOperand]

theorem namedDirs_cons (h : takesOperand arg = false) :
    namedDirs (arg :: args) = (attachedDir? arg).toList ++ namedDirs args := by
  have hfirst : namedDir? (arg :: args) 0 = attachedDir? arg := by
    simp [namedDir?, isOperand, h]
  have hrest : namedDir? (arg :: args) ∘ Nat.succ = namedDir? args := by
    funext i
    simp [namedDir?, isOperand_cons h]
  rw [namedDirs, List.length_cons, List.range_succ_eq_map, List.filterMap_cons, hfirst,
    List.filterMap_map, hrest]
  cases attachedDir? arg <;> rfl

theorem namedDirs_cons_cons (h : takesOperand flag) :
    namedDirs (flag :: dir :: rest) = dir :: namedDirs rest := by
  have hflag : namedDir? (flag :: dir :: rest) 0 = some dir := by
    simp [namedDir?, isOperand, h]
  have hdir : namedDir? (flag :: dir :: rest) 1 = none := by
    simp [namedDir?, isOperand, h]
  have hrest : namedDir? (flag :: dir :: rest) ∘ Nat.succ ∘ Nat.succ = namedDir? rest := by
    funext i
    simp [namedDir?, isOperand_cons_cons h]
  rw [namedDirs, List.length_cons, List.length_cons, List.range_succ_eq_map,
    List.range_succ_eq_map, List.filterMap_cons, hflag, List.map_cons, List.filterMap_cons, hdir,
    List.map_map, List.filterMap_map, hrest]
  rfl

theorem endsInBareFlag_cons (h : takesOperand arg = false) :
    endsInBareFlag (arg :: args) = endsInBareFlag args := by
  cases args with
  | nil =>
    have hne : arg ≠ "-I" := by
      rintro rfl
      cases h
    simp [endsInBareFlag, hne]
  | cons next rest =>
    unfold endsInBareFlag
    rw [List.getLast?_cons_cons, List.length_cons, List.length_cons, Nat.add_sub_cancel,
      isOperand_cons h, Nat.add_sub_cancel]

theorem endsInBareFlag_cons_cons (h : takesOperand flag) :
    endsInBareFlag (flag :: dir :: rest) = endsInBareFlag rest := by
  cases rest with
  | nil => simp [endsInBareFlag, isOperand, h]
  | cons next rest =>
    have hlast : (flag :: dir :: next :: rest).length - 1 = rest.length + 2 := rfl
    unfold endsInBareFlag
    rw [List.getLast?_cons_cons, List.getLast?_cons_cons, hlast, isOperand_cons_cons h,
      List.length_cons, Nat.add_sub_cancel]

end Behind

/-! ### Directories that are read -/

section Reading

variable {arg : String}

/-- What is read from an argument that takes no operand is what is attached to it. -/
theorem afterStart?_eq_attachedDir? (h : takesOperand arg = false) :
    Text.afterStart? "-I" arg = attachedDir? arg := by
  unfold attachedDir?
  split
  · next c cs heq =>
    rw [Text.afterStart?, heq]
    rfl
  · next hnone =>
    refine if_neg fun hprefix => ?_
    obtain ⟨rest, hrest⟩ := List.isPrefixOf_iff_prefix.1 hprefix
    cases rest with
    | nil =>
      obtain rfl : "-I" = arg := String.toList_inj.1 hrest
      cases h
    | cons c cs => exact hnone c cs hrest.symm

/-- What is attached is not empty. -/
theorem attachedDir?_ne_empty (arg : String) : attachedDir? arg ≠ some "" := by
  unfold attachedDir?
  split
  · next c cs _ =>
    intro h
    have hempty := congrArg String.toList (Option.some.inj h)
    rw [String.toList_ofList] at hempty
    cases hempty
  · exact nofun

/-- **What is read is what is named, and the empty directory behind it for a bare flag at the end.**
By induction as arguments are read: flags together with their operands, the others one by one. -/
theorem includeDirs_eq (args : List String) :
    includeDirs args = namedDirs args ++ if endsInBareFlag args then [""] else [] := by
  fun_induction includeDirs args with
  | case1 => rfl
  | case2 flag =>
    cases h : takesOperand flag with
    | false =>
      rw [afterStart?_eq_attachedDir? h, namedDirs_cons h, endsInBareFlag_cons h, List.append_assoc]
      exact (List.append_nil _).symm
    | true =>
      rcases takesOperand_iff.1 h with rfl | rfl <;> rfl
  | case3 flag next rest hflag ih =>
    have h : takesOperand flag := takesOperand_iff.2 hflag
    rw [namedDirs_cons_cons h, endsInBareFlag_cons_cons h, List.cons_append, ih]
  | case4 flag next rest hflag ih =>
    have h : takesOperand flag = false := by
      rw [Bool.eq_false_iff, Ne, takesOperand_iff]
      exact hflag
    rw [afterStart?_eq_attachedDir? h, namedDirs_cons h, endsInBareFlag_cons h, List.append_assoc,
      ih]

/-- Among arguments that are not empty, none names the empty directory. -/
theorem empty_not_mem_namedDirs {args : List String} (h : "" ∉ args) : "" ∉ namedDirs args := by
  intro hmem
  obtain ⟨i, -, hi⟩ := List.mem_filterMap.1 hmem
  unfold namedDir? at hi
  split at hi
  · cases hi
  · split at hi
    · cases hi
    · split at hi
      · exact h (List.mem_of_getElem? hi)
      · exact attachedDir?_ne_empty _ hi

end Reading

end Flags

namespace Config

theorem empty_not_mem_arguments (s : Surroundings) (c : Config) : "" ∉ c.arguments s := by
  intro hmem
  obtain ⟨w, hw, hempty⟩ := List.mem_map.1 hmem
  refine (Text.mem_wordsChars hw).1 ?_
  rw [← String.toList_ofList (l := w), hempty]
  rfl

end Config

/-- **Include directories are those that are named, and the empty one for a bare flag at the end.**

What is read from arguments, none of which is empty, are the directories that they name, in order,
and behind these the empty directory if the last argument is a flag `-I` that is no operand. So
arguments are read as what they name exactly if they do not end in this way, and only those that do
give the empty directory. No configuration has an empty argument, and one whose arguments end in
this way looks for a relative header in the working directory, under the path by which it
is listed. -/
theorem Flags.includeDirs_eq_namedDirs_iff {args : List String} (h : "" ∉ args) :
    includeDirs args = namedDirs args ++ (if endsInBareFlag args then [""] else []) ∧
    (includeDirs args = namedDirs args ↔ endsInBareFlag args = false) ∧
    ("" ∉ includeDirs args ↔ endsInBareFlag args = false) ∧
    ∀ (s : Surroundings) (c : Config), "" ∉ c.arguments s ∧
      ∀ header, c.arguments s = args → Path.isAbsolute header = false →
        (header ∉ Config.candidates (c.includeDirs s) header ↔ endsInBareFlag args = false) := by
  have hempty : "" ∉ includeDirs args ↔ endsInBareFlag args = false := by
    rw [includeDirs_eq]
    cases endsInBareFlag args <;> simp [empty_not_mem_namedDirs h]
  refine ⟨includeDirs_eq args, ?_, hempty, fun s c => ⟨c.empty_not_mem_arguments s, ?_⟩⟩
  · rw [includeDirs_eq]
    cases endsInBareFlag args <;> simp
  · rintro header rfl hrelative
    rw [← hempty, Config.candidates, hrelative, if_neg Bool.false_ne_true]
    refine not_congr ?_
    simp only [List.mem_map, Path.join_eq_self_iff hrelative, exists_eq_right]
    rfl

/-- A configuration whose flags end in a bare `-I` if the variable has no value. -/
def luaConfig : Config where
  cflags := "-isystem -I -I/lua -I$LUA_INCLUDE"
  headers := ["lua.h"]

/-- A machine with the header in the working directory, and without variables and tools. -/
def luaSurroundings : Surroundings where
  read _ := .error .notFound
  isFile path := path = "lua.h"
  valueOf? _ := none
  output? _ _ := none

theorem Flags.includeDirs_eq_namedDirs_iff_lua :
    "" ∉ luaConfig.arguments luaSurroundings ∧
    luaConfig.includeDirs luaSurroundings = ["-I", "/lua", ""] ∧
    "lua.h" ∈ Config.candidates (luaConfig.includeDirs luaSurroundings) "lua.h" := by
  have hargs := luaConfig.empty_not_mem_arguments luaSurroundings
  obtain ⟨hread, -, -, hcandidates⟩ := includeDirs_eq_namedDirs_iff hargs
  have hbare : endsInBareFlag (luaConfig.arguments luaSurroundings) = true := by decide +kernel
  refine ⟨hargs, hread.trans (by decide +kernel), ?_⟩
  by_contra hnot
  have hnone := ((hcandidates luaSurroundings luaConfig).2 "lua.h" rfl (by decide)).1 hnot
  exact Bool.false_ne_true (hnone.symm.trans hbare)

/-- **A bare flag at the end names no directory, but is read as the empty one**, and the header is
found in the working directory. -/
theorem Flags.bare_flag_read_as_empty :
    luaConfig.arguments luaSurroundings = ["-isystem", "-I", "-I/lua", "-I"] ∧
    namedDirs ["-isystem", "-I", "-I/lua", "-I"] = ["-I", "/lua"] ∧
    includeDirs ["-isystem", "-I", "-I/lua", "-I"] = ["-I", "/lua", ""] ∧
    luaConfig.headerPaths luaSurroundings = .ok ["lua.h"] := by
  refine ⟨by decide +kernel, by decide, by decide, ?_⟩
  rfl

end HeaderBindings
