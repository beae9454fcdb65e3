import HeaderBindings.Json.Reader
import HeaderBindings.Json.Writer
import Mathlib.Data.List.TakeWhile

/-!
# Values that are written are read back

What is written of a value is read as that value, whatever stands behind it (`ReadsBack`), and a
whole text that is written is read as the value that it was written for, also with blanks behind it
(`read?_write_append`).

Numbers are left out. They are read up to the first character that does not belong to a number, so
that they do not come back in front of everything.

## What comes back, part by part

* Strings, character by character (`readUnits_writeChar`): what is written for a character is read
  as one unit, be it an escape with a letter, an escape with a code or the character itself. Which
  of the three it is, is decided in the same order by the writer and in the cases of the proof. The
  units of a string are then put together to the text (`assemble_map_char`), where units that are
  characters never meet the rule for halves of a pair.
* Arrays and objects, item by item (`readElems_writeElems`, `readMembers_writeMembers`): the writer
  starts every item on a line of its own, so each item is found behind a line break and some blanks.
  Its first character is neither a blank nor a closing bracket (`Opens`), so the reader does not
  pass over it and does not take it for the end.
* Both kinds of brackets are treated once (`readsBack_of_items`). What is particular to arrays and
  to objects are the brackets and the reader of the items, and these are the premises.

## Fuel

The readers of values, elements and members call each other with less fuel than they have, and a
value may need as much as its depth and the number of its items tell. Twice the number of characters
is always enough: an item takes up at least one character, the comma or the bracket behind it takes
up one more, and no more than two units of fuel are spent until the next item is reached
(`length_joined`, `length_writeItems`). So the length of the text, of which the reader of a whole
text makes its fuel, serves as the measure in all inductions, and nothing has to be said about the
depth of a value.
-/

namespace HeaderBindings.Json

/-! ### Blanks

Readers pass over the blanks in front of what they read. So blanks in front of a text do not change
what is read, and in particular the line break with which the writer starts an item does not.
-/

/-- A character that is no blank is not passed over. -/
theorem skip_cons {c : Char} (h : isBlank c = false) (cs : List Char) : skip (c :: cs) = c :: cs :=
  List.dropWhile_cons_of_neg (by rw [h]; exact Bool.false_ne_true)

/-- Blanks are passed over at once. -/
theorem skip_skip (cs : List Char) : skip (skip cs) = skip cs :=
  List.dropWhile_eq_self_iff.2 fun hl => List.dropWhile_get_zero_not _ cs hl

/-- A line break is passed over with the blanks that follow it. -/
theorem skip_lineBreak (level : Nat) (cs : List Char) :
    skip ((lineBreak level).toList ++ cs) = skip cs := by
  rw [lineBreak, String.toList_ofList]
  apply List.dropWhile_append_of_pos
  intro c hc
  rcases List.mem_cons.1 hc with rfl | hc
  · rfl
  · rw [List.eq_of_mem_replicate hc]
    rfl

theorem readValue_skip (fuel : Nat) (cs : List Char) :
    readValue fuel (skip cs) = readValue fuel cs := by
  cases fuel with
  | zero => rw [readValue, readValue]
  | succ fuel => rw [readValue, readValue, skip_skip]

theorem readElems_skip (fuel : Nat) (cs : List Char) :
    readElems fuel (skip cs) = readElems fuel cs := by
  cases fuel with
  | zero => rw [readElems, readElems]
  | succ fuel => rw [readElems, readElems, readValue_skip]

theorem readMembers_skip (fuel : Nat) (cs : List Char) :
    readMembers fuel (skip cs) = readMembers fuel cs := by
  cases fuel with
  | zero => rw [readMembers, readMembers]
  | succ fuel => rw [readMembers, readMembers, skip_skip]

/-! ### Strings

The lemmas on single characters have the same form: what is left is read as before, and one unit is
put in front of the result. With that the induction on the characters of a string is a rewrite in
each step.
-/

/-- The code of a control character is read from its four digits. -/
theorem code?_control : ∀ n < 0x20,
    code? '0' '0' (hexDigit (n / 16)) (hexDigit (n % 16)) = some n := by
  decide

/-- A control character without a letter of its own is given by its code in four digits, of which
the first two are zeros. -/
theorem readUnits_control {c : Char} (h : c.toNat < 0x20) (cs : List Char) :
    readUnits
      ('\\' :: 'u' :: '0' :: '0' :: hexDigit (c.toNat / 16) :: hexDigit (c.toNat % 16) :: cs)
      = (readUnits cs).map fun r => (.char c :: r.1, r.2) := by
  have hcode : StringUnit.ofCode c.toNat = .char c := by
    rw [StringUnit.ofCode, if_neg (by omega), Char.ofNat_toNat]
  rw [readUnits, code?_control _ h]
  show ((readUnits cs).bind fun r => some (StringUnit.ofCode c.toNat :: r.1, r.2)) = _
  rw [hcode]
  cases readUnits cs <;> rfl

/-- An escape with a letter is one unit. The letter is none for which a code follows, because that
letter stands for no character. -/
theorem readUnits_escape {e c : Char} (he : escape? e = some c) (cs : List Char) :
    readUnits ('\\' :: e :: cs) = (readUnits cs).map fun r => (.char c :: r.1, r.2) := by
  rw [readUnits, he]
  · cases readUnits cs <;> rfl
  · -- the letter of a code is no escape of its own
    rintro _ _ _ _ _ rfl
    cases he

/-- A character that is written as it is, is read as it is. -/
theorem readUnits_plain {c : Char} (hquote : c ≠ '"') (hslash : c ≠ '\\')
    (hcontrol : ¬ c.toNat < 0x20) (cs : List Char) :
    readUnits (c :: cs) = (readUnits cs).map fun r => (.char c :: r.1, r.2) := by
  rw [readUnits, if_neg hcontrol]
  · cases readUnits cs <;> rfl
  · exact hquote
  · exact fun _ _ _ _ _ h _ => hslash h
  · exact fun _ _ h _ => hslash h

/-- **What is written for a character is read as one unit.** -/
theorem readUnits_writeChar (c : Char) (cs : List Char) :
    readUnits (writeChar c ++ cs) = (readUnits cs).map fun r => (.char c :: r.1, r.2) := by
  unfold writeChar
  by_cases hquote : c = '"'
  · rw [if_pos hquote, hquote]
    exact readUnits_escape rfl cs
  rw [if_neg hquote]
  by_cases hslash : c = '\\'
  · rw [if_pos hslash, hslash]
    exact readUnits_escape rfl cs
  rw [if_neg hslash]
  -- five control characters have an escape of their own, the others are given by their code
  split
  · next h => exact h ▸ readUnits_escape rfl cs
  split
  · next h => exact h ▸ readUnits_escape rfl cs
  split
  · next h => exact h ▸ readUnits_escape rfl cs
  split
  · next h => exact h ▸ readUnits_escape rfl cs
  split
  · next h => exact h ▸ readUnits_escape rfl cs
  split
  · next hcontrol => exact readUnits_control hcontrol cs
  · next hcontrol => exact readUnits_plain hquote hslash hcontrol cs

/-- The characters of a string are read up to the quote, by induction on them. -/
theorem readUnits_flatMap (cs rest : List Char) :
    readUnits (cs.flatMap writeChar ++ '"' :: rest) = some (cs.map .char, rest) := by
  induction cs with
  | nil => rw [List.flatMap_nil, List.nil_append, readUnits, List.map_nil]
  | cons c cs ih =>
    rw [List.flatMap_cons, List.append_assoc, readUnits_writeChar, ih]
    rfl

/-- Units that are characters are a text as they stand. -/
theorem assemble_map_char (cs : List Char) : assemble (cs.map .char) = some cs := by
  induction cs with
  | nil => rfl
  | cons c cs ih =>
    rw [List.map_cons, assemble, ih]
    rfl

/-- The text of a string between its quotes. -/
theorem toList_writeText (s : String) (rest : List Char) :
    (writeText s).toList ++ rest = '"' :: (s.toList.flatMap writeChar ++ '"' :: rest) := by
  rw [writeText, String.toList_ofList]
  simp

/-- **A text that is written as a string is read back.** -/
theorem readText_writeText (s : String) (rest : List Char) :
    readText (s.toList.flatMap writeChar ++ '"' :: rest) = some (some s, rest) := by
  rw [readText, readUnits_flatMap]
  show some ((assemble (s.toList.map .char)).map String.ofList, rest) = some (some s, rest)
  rw [assemble_map_char, Option.map_some, String.ofList_toList]

/-! ### One value

Behind the opening bracket the readers of arrays and objects look for the closing one, and only if
it is not there they go on to the items.
-/

theorem readValue_writeText (fuel : Nat) (s : String) (rest : List Char) :
    readValue (fuel + 1) ((writeText s).toList ++ rest) = some (text s, rest) := by
  rw [toList_writeText, readValue]
  show ((readText (s.toList.flatMap writeChar ++ '"' :: rest)).bind fun r =>
    some (string r.1, r.2)) = _
  rw [readText_writeText]
  rfl

/-- The reader of an array goes on to the elements if it does not find the closing bracket. -/
theorem readValue_array {rest : List Char} (h : ∀ cs, skip rest ≠ ']' :: cs) (fuel : Nat) :
    readValue (fuel + 1) ('[' :: rest) =
      (readElems fuel rest).map fun r => (array r.1, r.2) := by
  have hskip : skip ('[' :: rest) = '[' :: rest := rfl
  -- what follows the bracket is not its counterpart, so items are read
  simp only [readValue, hskip]
  rw [readElems_skip]
  cases readElems fuel rest <;> rfl

/-- Likewise the reader of an object. -/
theorem readValue_object {rest : List Char} (h : ∀ cs, skip rest ≠ '\x7d' :: cs) (fuel : Nat) :
    readValue (fuel + 1) ('\x7b' :: rest) =
      (readMembers fuel rest).map fun r => (object r.1, r.2) := by
  have hskip : skip ('\x7b' :: rest) = '\x7b' :: rest := rfl
  -- what follows the bracket is not its counterpart, so items are read
  simp only [readValue, hskip]
  rw [readMembers_skip]
  cases readMembers fuel rest <;> rfl

/-! ### One item

The reader of items tells the last item from the others by what stands behind it. Both cases are
stated for a value that is read already, so that they serve for every item of the induction.
-/

variable {fuel : Nat} {cs rest : List Char} {value : Json}

/-- The last element stands in front of the closing bracket. -/
theorem readElems_last (hvalue : readValue fuel cs = some (value, rest)) {after : List Char}
    (hclose : skip rest = ']' :: after) : readElems (fuel + 1) cs = some ([value], after) := by
  rw [readElems, hvalue]
  simp only [Option.bind_eq_bind, Option.bind_some, hclose]
  rfl

/-- An element in front of a comma is followed by others. -/
theorem readElems_more (hvalue : readValue fuel cs = some (value, ',' :: rest)) :
    readElems (fuel + 1) cs = (readElems fuel rest).map fun r => (value :: r.1, r.2) := by
  rw [readElems, hvalue]
  show ((readElems fuel rest).bind fun r => some (value :: r.1, r.2)) = _
  cases readElems fuel rest <;> rfl

/-- A member is read up to the end of its value, whatever follows. -/
theorem readMembers_member (name : String) (hvalue : readValue fuel cs = some (value, rest)) :
    readMembers (fuel + 1) ((writeText name).toList ++ ':' :: ' ' :: cs) =
      match skip rest with
      | ',' :: rest => (readMembers fuel rest).bind fun r => some ((some name, value) :: r.1, r.2)
      | '\x7d' :: rest => some ([(some name, value)], rest)
      | _ => none := by
  have hblank : readValue fuel (' ' :: cs) = some (value, rest) := by
    rw [← readValue_skip, ← hvalue, ← readValue_skip fuel cs]
    rfl
  have hquote : skip ('"' :: (name.toList.flatMap writeChar ++ '"' :: ':' :: ' ' :: cs)) =
      '"' :: (name.toList.flatMap writeChar ++ '"' :: ':' :: ' ' :: cs) := rfl
  have hcolon : skip (':' :: ' ' :: cs) = ':' :: ' ' :: cs := rfl
  rw [toList_writeText, readMembers, hquote]
  simp only [readText_writeText, hcolon, hblank, Option.bind_eq_bind, Option.bind_some]
  rfl

/-- The last member stands in front of the closing brace. -/
theorem readMembers_last (name : String) (hvalue : readValue fuel cs = some (value, rest))
    {after : List Char} (hclose : skip rest = '\x7d' :: after) :
    readMembers (fuel + 1) ((writeText name).toList ++ ':' :: ' ' :: cs) =
      some ([(some name, value)], after) := by
  rw [readMembers_member name hvalue, hclose]
  rfl

/-- A member in front of a comma is followed by others. -/
theorem readMembers_more (name : String) (hvalue : readValue fuel cs = some (value, ',' :: rest)) :
    readMembers (fuel + 1) ((writeText name).toList ++ ':' :: ' ' :: cs) =
      (readMembers fuel rest).map fun r => ((some name, value) :: r.1, r.2) := by
  rw [readMembers_member name hvalue]
  show ((readMembers fuel rest).bind fun r => some ((some name, value) :: r.1, r.2)) = _
  cases readMembers fuel rest <;> rfl

/-! ### All items

What is put together by a separator starts with its first item, and is as long as its items and the
separators are together. The first fact makes the reader find the items, and the second one counts
the fuel.
-/

/-- A text starts with a character by which neither the reader of an array nor that of an object
takes it for the end, or for a blank. -/
def Opens (s : String) : Prop :=
  ∃ c cs, s.toList = c :: cs ∧ isBlank c = false ∧ c ≠ ']' ∧ c ≠ '\x7d'

theorem Opens.append {s : String} (h : Opens s) (t : String) : Opens (s ++ t) := by
  obtain ⟨c, cs, hs, hc⟩ := h
  refine ⟨c, cs ++ t.toList, ?_, hc⟩
  rw [String.toList_append, hs, List.cons_append]

/-- What is put together opens if its first item does. -/
theorem Opens.joined {s : String} (h : Opens s) (sep : String) (rest : List String) :
    Opens (Text.joined sep (s :: rest)) := by
  cases rest with
  | nil => exact h
  | cons t rest => exact (h.append sep).append _

theorem Opens.length_pos {s : String} (h : Opens s) : 0 < s.length := by
  obtain ⟨c, cs, hs, -⟩ := h
  rw [← String.length_toList, hs]
  exact Nat.succ_pos _

/-- A string opens with its quote. -/
theorem opens_writeText (s : String) : Opens (writeText s) := by
  refine ⟨'"', s.toList.flatMap writeChar ++ ['"'], ?_, by decide⟩
  rw [writeText, String.toList_ofList, List.cons_append]

/-- Behind a line break, a text that opens is found. -/
theorem Opens.skip_ne {s : String} (h : Opens s) (level : Nat) (rest : List Char) {close : Char}
    (hclose : close = ']' ∨ close = '\x7d') (after : List Char) :
    skip ((lineBreak level).toList ++ (s.toList ++ rest)) ≠ close :: after := by
  obtain ⟨c, cs, hs, hblank, hbracket, hbrace⟩ := h
  rw [skip_lineBreak, hs, List.cons_append, skip_cons hblank]
  rintro heq
  cases heq
  exact hclose.elim hbracket hbrace

/-- A value opens, and what is written of it is read as the value, whatever stands behind it. -/
structure ReadsBack (j : Json) : Prop where
  opens : ∀ level, Opens (writeAt level j)
  reads : ∀ {level fuel}, 2 * (writeAt level j).length ≤ fuel → ∀ rest,
    readValue fuel ((writeAt level j).toList ++ rest) = some (j, rest)

/-- Behind the first item there are a comma, a line break and the others. -/
theorem toList_joined (level : Nat) (s t : String) (more : List String) (rest : List Char) :
    (Text.joined ("," ++ lineBreak level) (s :: t :: more)).toList ++ rest =
      s.toList ++ ',' :: ((lineBreak level).toList ++
        ((Text.joined ("," ++ lineBreak level) (t :: more)).toList ++ rest)) := by
  show (s ++ ("," ++ lineBreak level) ++ Text.joined _ (t :: more)).toList ++ rest = _
  simp [String.toList_append]

/-- The comma takes up a character of its own. -/
theorem length_joined (level : Nat) (s t : String) (more : List String) :
    s.length + (Text.joined ("," ++ lineBreak level) (t :: more)).length + 1 ≤
      (Text.joined ("," ++ lineBreak level) (s :: t :: more)).length := by
  show _ ≤ (s ++ ("," ++ lineBreak level) ++ Text.joined _ (t :: more)).length
  have hcomma : ",".length = 1 := rfl
  simp only [String.length_append]
  omega

theorem readElems_lineBreak (fuel level : Nat) (cs : List Char) :
    readElems fuel ((lineBreak level).toList ++ cs) = readElems fuel cs := by
  rw [← readElems_skip, skip_lineBreak, readElems_skip]

theorem readMembers_lineBreak (fuel level : Nat) (cs : List Char) :
    readMembers fuel ((lineBreak level).toList ++ cs) = readMembers fuel cs := by
  rw [← readMembers_skip, skip_lineBreak, readMembers_skip]

/-- **The elements of an array are read back**, by induction on their list. -/
theorem readElems_writeElems (level outer : Nat) {elems : List Json}
    (h : ∀ e ∈ elems, ReadsBack e) (hne : elems ≠ []) (rest : List Char) {fuel : Nat}
    (hfuel : 2 * (Text.joined ("," ++ lineBreak level) (writeElems level elems)).length ≤ fuel) :
    readElems (fuel + 1)
      ((Text.joined ("," ++ lineBreak level) (writeElems level elems)).toList ++
        ((lineBreak outer).toList ++ ']' :: rest)) = some (elems, rest) := by
  induction elems generalizing fuel with
  | nil => exact absurd rfl hne
  | cons elem others ih =>
    have helem := h elem List.mem_cons_self
    cases others with
    | nil =>
      apply readElems_last (helem.reads hfuel _)
      rw [skip_lineBreak]
      rfl
    | cons next others =>
      have hlength := length_joined level (writeAt level elem) (writeAt level next)
        (writeElems level others)
      simp only [writeElems] at hfuel ih ⊢
      -- the comma leaves fuel for the elements behind it
      obtain ⟨fuel, rfl⟩ : ∃ n, fuel = n + 1 := ⟨fuel - 1, by omega⟩
      have hmore : 2 * (Text.joined ("," ++ lineBreak level)
          (writeAt level next :: writeElems level others)).length ≤ fuel := by omega
      have hothers := ih (fun e he => h e (List.mem_cons_of_mem elem he)) (by simp) hmore
      rw [toList_joined, readElems_more (helem.reads (by omega) _), readElems_lineBreak, hothers]
      rfl

/-- A member is written as its name, a colon, a blank and its value. -/
theorem toList_member (name : String) (level : Nat) (value : Json) (rest : List Char) :
    (writeText name ++ ": " ++ writeAt level value).toList ++ rest =
      (writeText name).toList ++ ':' :: ' ' :: ((writeAt level value).toList ++ rest) := by
  simp [String.toList_append]

theorem length_member (name : String) (level : Nat) (value : Json) :
    (writeAt level value).length ≤ (writeText name ++ ": " ++ writeAt level value).length := by
  rw [String.length_append]
  omega

/-- **The members of an object are read back**, by induction on their list. -/
theorem readMembers_writeMembers (level outer : Nat) {members : List (JsonText × Json)}
    (h : ∀ m ∈ members, m.1.isSome ∧ ReadsBack m.2) (hne : members ≠ []) (rest : List Char)
    {fuel : Nat} (hfuel :
      2 * (Text.joined ("," ++ lineBreak level) (writeMembers level members)).length ≤ fuel) :
    readMembers (fuel + 1)
      ((Text.joined ("," ++ lineBreak level) (writeMembers level members)).toList ++
        ((lineBreak outer).toList ++ '\x7d' :: rest)) = some (members, rest) := by
  induction members generalizing fuel with
  | nil => exact absurd rfl hne
  | cons member others ih =>
    obtain ⟨hname, hvalue⟩ := h member List.mem_cons_self
    obtain ⟨name?, value⟩ := member
    obtain ⟨name, rfl⟩ := Option.isSome_iff_exists.1 hname
    replace hvalue : ReadsBack value := hvalue
    have hlength := length_member name level value
    cases others with
    | nil =>
      simp only [writeMembers, Text.joined, Option.getD_some] at hfuel ⊢
      rw [toList_member]
      apply readMembers_last name (hvalue.reads (by omega) _)
      rw [skip_lineBreak]
      rfl
    | cons next others =>
      obtain ⟨nextName, nextValue⟩ := next
      have hjoined := length_joined level (writeText name ++ ": " ++ writeAt level value)
        (writeText (nextName.getD "") ++ ": " ++ writeAt level nextValue)
        (writeMembers level others)
      simp only [writeMembers, Option.getD_some] at hfuel ih ⊢
      obtain ⟨fuel, rfl⟩ : ∃ n, fuel = n + 1 := ⟨fuel - 1, by omega⟩
      have hmore : 2 * (Text.joined ("," ++ lineBreak level)
          ((writeText (nextName.getD "") ++ ": " ++ writeAt level nextValue) ::
            writeMembers level others)).length ≤ fuel := by omega
      have hothers := ih (fun m hm => h m (List.mem_cons_of_mem _ hm)) (by simp) hmore
      rw [toList_joined, toList_member, readMembers_more name (hvalue.reads (by omega) _),
        readMembers_lineBreak, hothers]
      rfl

/-! ### Values

The lemmas of this section are the cases of an induction on values, one per constructor apart from
numbers. Users carry out the induction on the values that they write, which have no numbers.
-/

/-- A text is read back. -/
theorem readsBack_text (s : String) : ReadsBack (text s) where
  opens _ := opens_writeText s
  reads := by
    intro level fuel hfuel rest
    have hwritten : writeAt level (text s) = writeText s := by rw [text, writeAt, Option.getD_some]
    have hpos := (opens_writeText s).length_pos
    rw [hwritten] at hfuel ⊢
    obtain ⟨fuel, rfl⟩ : ∃ n, fuel = n + 1 := ⟨fuel - 1, by omega⟩
    exact readValue_writeText fuel s rest

section Brackets

variable {opening closing : String} {o c : Char}

theorem opens_writeItems (ho : opening.toList = [o]) (hblank : isBlank o = false)
    (hbracket : o ≠ ']') (hbrace : o ≠ '\x7d') (level : Nat) (closing : String)
    (items : List String) : Opens (writeItems level opening closing items) := by
  have hopens : Opens opening := ⟨o, [], ho, hblank, hbracket, hbrace⟩
  cases items with
  | nil => exact hopens.append closing
  | cons item items => exact (((hopens.append _).append _).append _).append closing

/-- Items stand behind a line break, and so does the closing bracket. -/
theorem toList_writeItems (ho : opening.toList = [o]) (hc : closing.toList = [c]) (level : Nat)
    (item : String) (items : List String) (rest : List Char) :
    (writeItems level opening closing (item :: items)).toList ++ rest =
      o :: ((lineBreak (level + 1)).toList ++
        ((Text.joined ("," ++ lineBreak (level + 1)) (item :: items)).toList ++
          ((lineBreak level).toList ++ c :: rest))) := by
  simp [writeItems, String.toList_append, ho, hc]

/-- The brackets take up characters of their own. -/
theorem length_writeItems (ho : opening.toList = [o]) (hc : closing.toList = [c]) (level : Nat)
    (item : String) (items : List String) :
    (Text.joined ("," ++ lineBreak (level + 1)) (item :: items)).length + 2 ≤
      (writeItems level opening closing (item :: items)).length := by
  have hopening : opening.length = 1 := by rw [← String.length_toList, ho]; rfl
  have hclosing : closing.length = 1 := by rw [← String.length_toList, hc]; rfl
  simp only [writeItems, String.length_append]
  omega

/-- **What is written in brackets is read back** if its items are, with the fuel that is left behind
the brackets. -/
theorem readsBack_of_items (ho : opening.toList = [o]) (hc : closing.toList = [c])
    (hblank : isBlank o = false) (hbracket : o ≠ ']') (hbrace : o ≠ '\x7d') {j : Json}
    (items : Nat → List String)
    (hwritten : ∀ level, writeAt level j = writeItems level opening closing (items (level + 1)))
    (hnone : ∀ level, items level = [] → ∀ fuel rest,
      readValue (fuel + 1) (o :: c :: rest) = some (j, rest))
    (hsome : ∀ level, items (level + 1) ≠ [] → ∀ fuel rest,
      2 * (Text.joined ("," ++ lineBreak (level + 1)) (items (level + 1))).length ≤ fuel →
        readValue (fuel + 2) (o :: ((lineBreak (level + 1)).toList ++
          ((Text.joined ("," ++ lineBreak (level + 1)) (items (level + 1))).toList ++
            ((lineBreak level).toList ++ c :: rest)))) = some (j, rest)) :
    ReadsBack j := by
  have hopens : ∀ level, Opens (writeItems level opening closing (items (level + 1))) :=
    fun level => opens_writeItems ho hblank hbracket hbrace level closing _
  constructor
  · intro level
    rw [hwritten]
    exact hopens level
  · intro level fuel hfuel rest
    have hpos := (hopens level).length_pos
    rw [hwritten] at hfuel ⊢
    cases hitems : items (level + 1) with
    | nil =>
      rw [hitems] at hfuel hpos
      obtain ⟨fuel, rfl⟩ : ∃ n, fuel = n + 1 := ⟨fuel - 1, by omega⟩
      rw [writeItems, String.toList_append, ho, hc]
      exact hnone (level + 1) hitems fuel rest
    | cons item more =>
      have hlength := length_writeItems ho hc level item more
      have hread := hsome level (by simp [hitems])
      rw [hitems] at hfuel hread
      obtain ⟨fuel, rfl⟩ : ∃ n, fuel = n + 2 := ⟨fuel - 2, by omega⟩
      rw [toList_writeItems ho hc]
      exact hread fuel rest (by omega)

end Brackets

/-- **An array of values that are read back is read back.** -/
theorem readsBack_array {elems : List Json} (h : ∀ e ∈ elems, ReadsBack e) :
    ReadsBack (array elems) := by
  have hopening : "[".toList = ['['] := rfl
  have hclosing : "]".toList = [']'] := rfl
  refine readsBack_of_items hopening hclosing (by decide) (by decide) (by decide)
    (fun level => writeElems level elems) (fun level => by rw [writeAt]) ?_ ?_
  · intro level hnone fuel rest
    cases elems with
    | nil => rfl
    | cons elem others => cases hnone
  · intro level hsome fuel rest hfuel
    cases elems with
    | nil => exact absurd rfl hsome
    | cons elem others =>
      have hfirst := ((h elem List.mem_cons_self).opens (level + 1)).joined
        ("," ++ lineBreak (level + 1)) (writeElems (level + 1) others)
      rw [← writeElems] at hfirst
      rw [readValue_array (hfirst.skip_ne (level + 1) _ (.inl rfl)), readElems_lineBreak,
        readElems_writeElems (level + 1) level h (by simp) rest hfuel]
      rfl

/-- **An object is read back if its names denote texts and its values are read back.** -/
theorem readsBack_object {members : List (JsonText × Json)}
    (h : ∀ m ∈ members, m.1.isSome ∧ ReadsBack m.2) : ReadsBack (object members) := by
  have hopening : "\x7b".toList = ['\x7b'] := rfl
  have hclosing : "\x7d".toList = ['\x7d'] := rfl
  refine readsBack_of_items hopening hclosing (by decide) (by decide) (by decide)
    (fun level => writeMembers level members) (fun level => by rw [writeAt]) ?_ ?_
  · intro level hnone fuel rest
    cases members with
    | nil => rfl
    | cons member others => cases hnone
  · intro level hsome fuel rest hfuel
    cases members with
    | nil => exact absurd rfl hsome
    | cons member others =>
      obtain ⟨name, value⟩ := member
      have hfirst := (((opens_writeText (name.getD "")).append ": ").append
        (writeAt (level + 1) value)).joined ("," ++ lineBreak (level + 1))
        (writeMembers (level + 1) others)
      rw [← writeMembers] at hfirst
      rw [readValue_object (hfirst.skip_ne (level + 1) _ (.inr rfl)), readMembers_lineBreak,
        readMembers_writeMembers (level + 1) level h (by simp) rest hfuel]
      rfl

/-- **What is written of a value is read back**, also with blanks behind it. -/
theorem read?_write_append {j : Json} (h : ReadsBack j) {blanks : String}
    (hblanks : skip blanks.toList = []) : read? (j.write ++ blanks) = some j := by
  have hfuel : 2 * (writeAt 0 j).length ≤ 2 * (j.write ++ blanks).toList.length + 1 := by
    rw [String.length_toList, String.length_append, write]
    omega
  unfold read?
  dsimp only
  rw [String.toList_append] at hfuel ⊢
  rw [write] at hfuel ⊢
  rw [h.reads hfuel]
  dsimp only
  rw [if_pos hblanks]

end HeaderBindings.Json
