import HeaderBindings.Flags
import Mathlib.Data.List.TakeWhile

/-!
# Values of variables are inert

When flags are expanded, the tool calls are read from the text, and the references to variables from
the text in which the outputs of the tools have taken the place of the calls. Both are fixed before
a variable is looked up. So a value is inserted as it is: it starts no tool, and no reference in it
is replaced (`expand_inert`).

That the effects are these and no others is seen on the expansion with effects (`expandM`), run with
a log of the tools that are called and the variables that are looked up (`expandLogged_eq`).

## How texts are cut

A text is cut into pieces, which are characters and markers, by a reader that is tried at every
character. Nothing about such a reader is needed but that it reads markers (`ReadsMarkers`). Then
the pieces spell the text (`spells_pieces`), so whatever is found among the pieces stands in the
text, and nothing of the text is lost. The two readers of this program, for calls and for
references, are shown to be such readers once, and all that is said of expansions comes from the
spelling.
-/

namespace HeaderBindings.Flags

open HeaderBindings.Text (trimChars trim words wordsChars joined)

/-! ### Pieces and the text they spell -/

section Pieces

variable {α : Type}

/-- The pieces of a text, in order. `IsMarker w a` says that `w` is a marker that holds `a`. -/
inductive Spells (IsMarker : List Char → α → Prop) : List Char → List (Piece α) → Prop where
  | nil : Spells IsMarker [] []
  | char {cs ps} (c : Char) : Spells IsMarker cs ps → Spells IsMarker (c :: cs) (.char c :: ps)
  | marker {w a cs ps} : IsMarker w a → Spells IsMarker cs ps →
      Spells IsMarker (w ++ cs) (.marker a :: ps)

/-- Wherever a marker is read, one stands, and it takes up the characters that are told. -/
def ReadsMarkers (read? : List Char → Option (α × Nat)) (IsMarker : List Char → α → Prop) : Prop :=
  ∀ cs a more, read? cs = some (a, more) →
    ∃ w rest, cs = w ++ rest ∧ w.length = more + 1 ∧ IsMarker w a

variable {IsMarker : List Char → α → Prop} {read? : List Char → Option (α × Nat)}
  {cs : List Char} {ps : List (Piece α)}

/-- By induction on the text, of which the characters of a marker are passed over. -/
theorem spells_piecesFrom (h : ReadsMarkers read? IsMarker) (skip : Nat) (cs : List Char) :
    Spells IsMarker (cs.drop skip) (piecesFrom read? skip cs) := by
  fun_induction piecesFrom read? skip cs with
  | case1 skip =>
    rw [List.drop_nil]
    exact .nil
  | case2 skip c cs ih => exact ih
  | case3 c cs a more hread ih =>
    obtain ⟨w, rest, heq, hlength, hmarker⟩ := h _ _ _ hread
    have hrest : rest = cs.drop more := by
      rw [← List.drop_succ_cons (a := c), heq, ← hlength, List.drop_left]
    rw [List.drop_zero, heq, hrest]
    exact .marker hmarker ih
  | case4 c cs _ ih => exact .char c ih

/-- **The pieces of a text spell the text.** -/
theorem spells_pieces (h : ReadsMarkers read? IsMarker) (cs : List Char) :
    Spells IsMarker cs (pieces read? cs) :=
  spells_piecesFrom h 0 cs

/-- A marker among the pieces stands somewhere in the text. -/
theorem Spells.exists_of_mem (h : Spells IsMarker cs ps) {a : α} (ha : Piece.marker a ∈ ps) :
    ∃ before w after, cs = before ++ w ++ after ∧ IsMarker w a := by
  induction h with
  | nil => cases ha
  | char c _ ih =>
    obtain ⟨before, w, after, rfl, hw⟩ := ih (by simpa using ha)
    exact ⟨c :: before, w, after, rfl, hw⟩
  | @marker w' a' cs ps hmarker _ ih =>
    rcases List.mem_cons.1 ha with heq | ha
    · cases heq
      exact ⟨[], w', cs, rfl, hmarker⟩
    · obtain ⟨before, w, after, rfl, hw⟩ := ih ha
      exact ⟨w' ++ before, w, after, by simp, hw⟩

/-- A text in which no marker can start has its characters as pieces. -/
theorem Spells.eq_map_char (h : Spells IsMarker cs ps) {start : Char}
    (hstart : ∀ w a, IsMarker w a → start ∈ w) (hcs : start ∉ cs) : ps = cs.map .char := by
  induction h with
  | nil => rfl
  | char c _ ih => rw [List.map_cons, ih fun hmem => hcs (List.mem_cons_of_mem c hmem)]
  | marker hmarker _ _ => exact absurd (List.mem_append_left _ (hstart _ _ hmarker)) hcs

/-- What a piece holds that is a marker. -/
def Piece.marker? : Piece α → Option α
  | .char _ => none
  | .marker a => some a

theorem fill_map_char (meaning : α → List Char) (cs : List Char) :
    fill meaning (cs.map .char) = cs := by
  induction cs with
  | nil => rfl
  | cons c cs ih => exact congrArg (c :: ·) ih

end Pieces

/-! ### The two kinds of markers -/

/-- A tool call holds the command line up to the first closing parenthesis. -/
def IsCommand (w line : List Char) : Prop :=
  w = '$' :: '(' :: (line ++ [')']) ∧ line ≠ [] ∧ ')' ∉ line

/-- A name of a variable: a letter or an underscore, then these and digits. -/
def IsVariable (name : String) : Prop :=
  ∃ c rest, name.toList = c :: rest ∧ isNameStart c ∧ ∀ d ∈ rest, isNameChar d

/-- A reference holds the name of a variable, which may stand between braces. -/
def IsReference (w : List Char) (name : String) : Prop :=
  (w = '$' :: name.toList ∨ w = '$' :: '\x7b' :: (name.toList ++ ['\x7d'])) ∧ IsVariable name

/-- A text that holds a character behind what stands before it. -/
theorem exists_eq_takeWhile_append {cs : List Char} {c : Char}
    (h : (cs.takeWhile (· ≠ c)).length < cs.length) :
    ∃ after, cs = cs.takeWhile (· ≠ c) ++ c :: after := by
  have hsplit := List.takeWhile_append_dropWhile (p := (· ≠ c)) (l := cs)
  have hstop := List.head?_dropWhile_not (· ≠ c) cs
  cases hrest : cs.dropWhile (· ≠ c) with
  | nil =>
    rw [hrest, List.append_nil] at hsplit
    rw [hsplit] at h
    exact absurd h (Nat.lt_irrefl _)
  | cons d after =>
    rw [hrest] at hstop hsplit
    obtain rfl : d = c := by simpa using hstop
    exact ⟨after, hsplit.symm⟩

theorem readsMarkers_commandLine? : ReadsMarkers commandLine? IsCommand := by
  intro cs line more h
  unfold commandLine? at h
  split at h
  · next cs =>
    dsimp only at h
    split at h
    · next hline =>
      cases h
      obtain ⟨after, hafter⟩ := exists_eq_takeWhile_append hline.2
      refine ⟨'$' :: '(' :: (cs.takeWhile (· ≠ ')') ++ [')']), after, ?_, by simp, rfl, hline.1, ?_⟩
      · rw [List.cons_append, List.cons_append, List.append_assoc]
        exact congrArg (fun cs => '$' :: '(' :: cs) hafter
      · intro hmem
        simpa using List.mem_takeWhile_imp hmem
    · cases h
  · cases h

theorem exists_of_name? {cs name : List Char} (h : name? cs = some name) :
    ∃ rest, cs = name ++ rest ∧ IsVariable (String.ofList name) := by
  unfold name? at h
  split at h
  · next c rest =>
    split at h
    · next hstart =>
      cases h
      refine ⟨rest.dropWhile isNameChar, ?_, c, rest.takeWhile isNameChar, String.toList_ofList,
        hstart, fun d hd => List.mem_takeWhile_imp hd⟩
      rw [List.cons_append, List.takeWhile_append_dropWhile]
    · cases h
  · cases h

theorem readsMarkers_reference? : ReadsMarkers reference? IsReference := by
  intro cs name more h
  unfold reference? at h
  split at h
  · next cs =>
    obtain ⟨read, hread, hclosed⟩ := Option.bind_eq_some_iff.1 h
    obtain ⟨rest, rfl, hvariable⟩ := exists_of_name? hread
    split at hclosed
    · next hclose =>
      cases hclosed
      rw [List.drop_left] at hclose
      obtain ⟨after, rfl⟩ := List.head?_eq_some_iff.1 hclose
      exact ⟨'$' :: '\x7b' :: (read ++ ['\x7d']), after, by simp, by simp,
        .inr (by rw [String.toList_ofList]), hvariable⟩
    · cases hclosed
  · next cs _ =>
    obtain ⟨read, hread, hbare⟩ := Option.bind_eq_some_iff.1 h
    obtain ⟨rest, rfl, hvariable⟩ := exists_of_name? hread
    cases hbare
    exact ⟨'$' :: read, rest, by simp, by simp, .inl (by rw [String.toList_ofList]), hvariable⟩
  · cases h

/-- The text in which the calls of tools are replaced. -/
def replaced (run : Runner) (text : String) : List Char :=
  fill (commandText run) (commandPieces text)

theorem spells_commandPieces (text : String) :
    Spells IsCommand text.toList (commandPieces text) :=
  spells_pieces readsMarkers_commandLine? text.toList

theorem spells_referencePieces (run : Runner) (text : String) :
    Spells IsReference (replaced run text) (referencePieces run text) :=
  spells_pieces readsMarkers_reference? (replaced run text)

/-- **Every tool call stands in the text**, with the words between `$(` and the next `)`. -/
theorem exists_of_mem_toolCalls {text : String} {call : ToolCall} (h : call ∈ toolCalls text) :
    call.tool ∈ allowedTools ∧ ∃ before line after,
      text = before ++ "$(" ++ line ++ ")" ++ after ∧ ')' ∉ line.toList ∧
      words line = call.tool :: call.args := by
  obtain ⟨piece, hpiece, hcall⟩ := List.mem_filterMap.1 h
  cases piece with
  | char c => cases hcall
  | marker line =>
    obtain ⟨before, w, after, htext, rfl, -, hclose⟩ :=
      (spells_commandPieces text).exists_of_mem hpiece
    have hwords : words (String.ofList line) = (wordsChars line).map String.ofList := by
      rw [words, String.toList_ofList]
    dsimp only at hcall
    unfold ToolCall.ofLine? at hcall
    rw [← hwords] at hcall
    split at hcall
    · cases hcall
    · next tool args hline =>
      split at hcall
      · next hallowed =>
        cases hcall
        refine ⟨hallowed, String.ofList before, String.ofList line, String.ofList after, ?_, ?_,
          hline⟩
        · rw [← String.toList_inj, htext]
          simp
        · rwa [String.toList_ofList]
      · cases hcall

/-- **A text without a dollar sign holds nothing to replace.** -/
theorem expand_of_not_mem {text : String} (h : '$' ∉ text.toList) (run : Runner)
    (valueOf? : String → Option String) : expand run valueOf? text = trim text := by
  have hcommand : ∀ w line, IsCommand w line → '$' ∈ w := by
    rintro w line ⟨rfl, -⟩
    exact List.mem_cons_self
  have hreference : ∀ w name, IsReference w name → '$' ∈ w := by
    rintro w name ⟨rfl | rfl, -⟩ <;> exact List.mem_cons_self
  have hreplaced : replaced run text = text.toList := by
    rw [replaced, (spells_commandPieces text).eq_map_char hcommand h, fill_map_char]
  have hpieces := (spells_referencePieces run text).eq_map_char hreference (hreplaced ▸ h)
  rw [expand, hpieces, fill_map_char, hreplaced, trim]

/-! ### Expansion with effects -/

theorem toolCalls_eq (text : String) :
    toolCalls text = ((commandPieces text).filterMap Piece.marker?).filterMap ToolCall.ofLine? := by
  rw [toolCalls, List.filterMap_filterMap]
  congr 1
  funext piece
  cases piece <;> rfl

theorem references_eq (run : Runner) (text : String) :
    references run text = (referencePieces run text).filterMap Piece.marker? := by
  rw [references]
  congr 1
  funext piece
  cases piece <;> rfl

/-- What the markers log is logged in their order. -/
theorem fillM_eq {α : Type} {meaning : α → StateM (List Event) (List Char)}
    {value : α → List Char} {event? : α → Option Event}
    (h : ∀ a log, meaning a log = (value a, log ++ (event? a).toList)) (ps : List (Piece α))
    (log : List Event) :
    fillM meaning ps log =
      (fill value ps, log ++ (ps.filterMap Piece.marker?).filterMap event?) := by
  induction ps generalizing log with
  | nil =>
    rw [List.filterMap_nil, List.filterMap_nil, List.append_nil]
    rfl
  | cons piece ps ih =>
    cases piece with
    | char c =>
      show (c :: (fillM meaning ps log).1, (fillM meaning ps log).2) = _
      rw [ih]
      rfl
    | marker a =>
      have hmarkers : (Piece.marker a :: ps).filterMap Piece.marker? =
          a :: ps.filterMap Piece.marker? := rfl
      show ((meaning a log).1 ++ (fillM meaning ps (meaning a log).2).1,
        (fillM meaning ps (meaning a log).2).2) = _
      rw [h, ih, List.append_assoc, hmarkers, List.filterMap_cons]
      cases event? a <;> rfl

theorem commandTextM_eq (run : Runner) (line : List Char) (log : List Event) :
    commandTextM (runLogged run) line log =
      (commandText run line, log ++ ((ToolCall.ofLine? line).map .called).toList) := by
  unfold commandTextM commandText
  cases ToolCall.ofLine? line with
  | none => exact congrArg (([], ·)) (List.append_nil log).symm
  | some call =>
    dsimp only [runLogged]
    cases run call.tool call.args <;> rfl

theorem valueTextM_eq (valueOf? : String → Option String) (name : String) (log : List Event) :
    valueTextM (lookUpLogged valueOf?) name log =
      (((valueOf? name).getD "").toList, log ++ (some (Event.lookedUp name)).toList) :=
  rfl

/-- **An expansion first calls the tools of its text, and then looks up the references** in what the
tools have left. -/
theorem expandLogged_eq (run : Runner) (valueOf? : String → Option String) (text : String) :
    expandLogged run valueOf? text =
      (expand run valueOf? text,
        (toolCalls text).map .called ++ (references run text).map .lookedUp) := by
  have hcalls : fillM (commandTextM (runLogged run)) (commandPieces text) [] =
      (replaced run text, (toolCalls text).map .called) := by
    rw [fillM_eq (commandTextM_eq run), toolCalls_eq, List.map_filterMap]
    rfl
  have hlookups : ∀ log, fillM (valueTextM (lookUpLogged valueOf?)) (referencePieces run text) log =
      (fill (fun name => ((valueOf? name).getD "").toList) (referencePieces run text),
        log ++ (references run text).map .lookedUp) := by
    intro log
    rw [fillM_eq (valueTextM_eq valueOf?), references_eq]
    simp
  calc expandLogged run valueOf? text
    _ = (fun filled => (fun shown => (String.ofList (trimChars shown.1), shown.2))
          (fillM (valueTextM (lookUpLogged valueOf?)) (pieces reference? filled.1) filled.2))
          (fillM (commandTextM (runLogged run)) (commandPieces text) []) := rfl
    _ = (fun shown => (String.ofList (trimChars shown.1), shown.2))
          (fillM (valueTextM (lookUpLogged valueOf?)) (referencePieces run text)
            ((toolCalls text).map .called)) := by rw [hcalls]; rfl
    _ = _ := by rw [hlookups]; rfl

/-- **Values of variables are inert.**

The tool calls of a text and its references to variables depend on the text and on what the tools
give. Whatever values the variables have, an expansion makes exactly these calls, looks up exactly
these references, in order, and gives the pieces of the text that the tools have left, with the
values in the place of the references, less the blanks at its ends. Every call is of one of two
tools, with the words between a `$(` of the text and the next `)`. A text without a dollar sign is
only trimmed. -/
theorem expand_inert (run : Runner) (text : String) :
    (∀ valueOf?,
      expandLogged run valueOf? text =
        (expand run valueOf? text,
          (toolCalls text).map .called ++ (references run text).map .lookedUp) ∧
      expand run valueOf? text = trim (String.ofList
        (fill (fun name => ((valueOf? name).getD "").toList) (referencePieces run text)))) ∧
    Spells IsReference (replaced run text) (referencePieces run text) ∧
    (∀ call ∈ toolCalls text, call.tool ∈ ["pkg-config", "llvm-config"] ∧
      ∃ before line after, text = before ++ "$(" ++ line ++ ")" ++ after ∧ ')' ∉ line.toList ∧
        words line = call.tool :: call.args) ∧
    ('$' ∉ text.toList → ∀ valueOf?, expand run valueOf? text = trim text) := by
  refine ⟨fun valueOf? => ⟨expandLogged_eq run valueOf? text, ?_⟩, spells_referencePieces run text,
    fun call => exists_of_mem_toolCalls, fun h => expand_of_not_mem h run⟩
  rw [trim, String.toList_ofList, expand]

-- the markers in the value of `HOME` stay as they are, and those in the output of the tool do not
example : expandLogged (fun _ _ => some "-I/opt\n$HOME") (fun _ => some "$(llvm-config) $HOME")
    "$(pkg-config  --cflags lua)$()" =
    ("-I/opt $(llvm-config) $HOME$()",
      [.called ⟨"pkg-config", ["--cflags", "lua"]⟩, .lookedUp "HOME"]) := by
  decide +kernel

end HeaderBindings.Flags
