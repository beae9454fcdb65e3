import HeaderBindings.Proofs.Target.Spelling

/-!
# Texts of types are read in one way

The text of a type does not tell where it ends: `c.Int` may go on as `c.Int32`, and a signature may
go on with its result. But only a comma, a semicolon or a closing bracket may follow a type
(`Ends`), so that a text which is followed so comes from one type only (`ReadOnce`). From that
follows what is wanted of whole texts: different types have different ones (`render_ne_of_ne`).

## The shape of the argument

Two types with the same text, up to what follows, are compared from the front.

* The characters of words and names form a run that ends where anything else stands (`run_unique`).
  So both types start with the same word, and as the word tells the form, they have the same form
  (`same_form`).
* Behind the word stand the parts. If each part is followed by something that may follow a type, the
  parts are the same one after the other, and what follows the whole types is the same.
* An induction on types puts the two together (`readOnce`). It has one lemma per constructor, in
  which the parts are read once by hypothesis.

That parts are followed by what may follow a type is clear for slots, which stand in front of a
separator or a bracket (`ends_moreShown`). The element of an array, what a pointer points to and the
result of a signature are at the end of their type, and so are followed by what follows the type
itself.

## Slots

Slots are the delicate part, because a slot shows its name only if it has one: `x c.Int` is a slot
with a name, and `c.Int` one without. The name of one slot may not be taken for the type of another
one (`named_ne_unnamed`). For most forms a blank cannot stand behind the first word, but there is
one with a second word, `invalid type`. A field `invalid` of a declared type named `type` would look
the same, and is ruled out because declared types start with an upper-case letter (`shown_ne_type`).
-/

namespace HeaderBindings

/-! ### Runs of characters

A run of characters of one kind, followed by a character of another kind, can be cut off from a text
in one way only. This serves for words, for names and for the lengths of arrays.
-/

namespace Text

/-- No character of a kind comes next. -/
def NotAhead (p : Char → Bool) (text : List Char) : Prop := ∀ c ∈ text.head?, ¬ p c

theorem notAhead_cons {p : Char → Bool} {c : Char} {rest : List Char} :
    NotAhead p (c :: rest) ↔ ¬ p c := by
  simp [NotAhead]

/-- A run of characters of a kind that ends where it has to is found again. -/
theorem run_unique {p : Char → Bool} {front front' back back' : List Char}
    (hfront : ∀ c ∈ front, p c) (hfront' : ∀ c ∈ front', p c) (hback : NotAhead p back)
    (hback' : NotAhead p back') (h : front ++ back = front' ++ back') :
    front = front' ∧ back = back' := by
  induction front generalizing front' with
  | nil =>
    cases front' with
    | nil => exact ⟨rfl, h⟩
    | cons d front' =>
      rw [List.nil_append] at h
      rw [h, List.cons_append, notAhead_cons] at hback
      exact absurd (hfront' d List.mem_cons_self) hback
  | cons c front ih =>
    cases front' with
    | nil =>
      rw [List.nil_append] at h
      rw [← h, List.cons_append, notAhead_cons] at hback'
      exact absurd (hfront c List.mem_cons_self) hback'
    | cons d front' =>
      simp only [List.cons_append, List.cons.injEq] at h
      obtain ⟨rfl, h⟩ := h
      obtain ⟨rfl, hrest⟩ := ih (fun e he => hfront e (List.mem_cons_of_mem _ he))
        (fun e he => hfront' e (List.mem_cons_of_mem _ he)) h
      exact ⟨rfl, hrest⟩

/-- A number is found again in front of a bracket. -/
theorem repr_unique {m n : Nat} {rest rest' : List Char}
    (h : m.repr.toList ++ ']' :: rest = n.repr.toList ++ ']' :: rest') : m = n ∧ rest = rest' := by
  have hbracket : ∀ rest, NotAhead Char.isDigit (']' :: rest) := fun _ =>
    notAhead_cons.2 (by decide)
  obtain ⟨hrepr, hrest⟩ := run_unique (fun _ => isDigit_of_mem_repr)
    (fun _ => isDigit_of_mem_repr) (hbracket rest) (hbracket rest') h
  have hread := number?_repr m
  rw [hrepr, number?_repr n] at hread
  exact ⟨(Option.some.inj hread).symm, (List.cons.inj hrest).2⟩

theorem repr_append_ne {n : Nat} {rest rest' : List Char} :
    n.repr.toList ++ rest ≠ ']' :: rest' := by
  intro h
  cases hrepr : n.repr.toList with
  | nil => exact repr_toList_ne_nil n hrepr
  | cons c digits =>
    rw [hrepr, List.cons_append] at h
    have hdigit : c.isDigit := by
      apply isDigit_of_mem_repr (n := n)
      rw [hrepr]
      exact List.mem_cons_self
    rw [(List.cons.inj h).1] at hdigit
    exact absurd hdigit (by decide)

end Text

namespace TargetType

open Text (NotAhead notAhead_cons run_unique repr_unique repr_append_ne)

/-! ### Where a type starts and ends

What may follow a type, and what it may start with, exclude each other. That is how the end of a
list of slots is told from one more slot, and a signature without a result from one with a result.
-/

/-- What may follow a type: the end of the text, a separator or a closing bracket. -/
inductive Ends : List Char → Prop where
  | nil : Ends []
  | comma (rest) : Ends (',' :: rest)
  | semicolon (rest) : Ends (';' :: rest)
  | parenthesis (rest) : Ends (')' :: rest)
  | brace (rest) : Ends (' ' :: '\x7d' :: rest)

/-- Characters of names and of words. -/
def isWordChar (c : Char) : Bool := isIdentifierChar c || c == '.'

/-- Characters that types and names start with. -/
def isStart (c : Char) : Bool := isWordChar c || c == '*' || c == '['

theorem isStart_of_isWordChar {c : Char} (h : isWordChar c) : isStart c := by
  simp [isStart, h]

theorem isWordChar_of_isIdentifier {name : String} (h : IsIdentifier name) :
    ∀ c ∈ name.toList, isWordChar c := by
  intro c hc
  simp [isWordChar, h.2 c hc]

theorem isWordChar_of_keyword : ∀ form ∈ Form.keywords, form.word.toList.all isWordChar := by
  decide

theorem isWordChar_of_mem_word {type : TargetType} (h : type.WellSpelled) (place : Place) :
    ∀ c ∈ (type.form place).word.toList, isWordChar c := by
  obtain hkeyword | ⟨name, rfl⟩ := form_mem_keywords_or place type
  · exact List.all_eq_true.1 (isWordChar_of_keyword _ hkeyword)
  · obtain ⟨first, rest, hname, hupper, hrest⟩ : IsTypeName name := h _ .self
    intro c hc
    have hc : c ∈ name.toList := hc
    rw [hname, List.mem_cons] at hc
    obtain rfl | hc := hc
    · have halphanum : c.isAlphanum := by
        show ((c.isUpper || c.isLower) || c.isDigit) = true
        simp [hupper]
      simp [isWordChar, isIdentifierChar, halphanum]
    · simp [isWordChar, hrest c hc]

theorem Ends.notAhead {rest : List Char} (h : Ends rest) : NotAhead isWordChar rest := by
  cases h with
  | nil => simp [NotAhead]
  | _ => exact notAhead_cons.2 (by decide)

theorem notAhead_afterWord {rest : List Char} (h : Ends rest) (place : Place)
    (type : TargetType) : NotAhead isWordChar (afterWord place rest type) := by
  cases type with
  | scalar | opaquePointer | named => exact h.notAhead
  | varArgs =>
    cases place with
    | param => exact h.notAhead
    | field => exact notAhead_cons.2 (by decide)
  | struct fields => cases fields <;> exact notAhead_cons.2 (by decide)
  | _ => exact notAhead_cons.2 (by decide)

theorem exists_start {type : TargetType} (h : type.WellSpelled) (place : Place)
    (rest : List Char) : ∃ c tail, shown place type ++ rest = c :: tail ∧ isStart c := by
  rw [shown_append h]
  have hword := isWordChar_of_mem_word h place
  have hform := ofWord_word h place
  generalize hw : (type.form place).word = w at hword hform ⊢
  cases hchars : w.toList with
  | cons c tail =>
    rw [hchars] at hword
    exact ⟨c, _, rfl, isStart_of_isWordChar (hword c List.mem_cons_self)⟩
  | nil =>
    -- without a word in front, it is a star or a bracket
    obtain rfl := String.toList_eq_nil_iff.1 hchars
    have hhas := hasForm_form place type
    rw [← hform, show Form.ofWord "" = .wordless by decide] at hhas
    cases hhas <;> exact ⟨_, _, rfl, by decide⟩

/-- Nothing that may follow a type is a blank and a type behind it. -/
theorem not_ends_blank {type : TargetType} (h : type.WellSpelled) (place : Place)
    (rest : List Char) : ¬ Ends (' ' :: (shown place type ++ rest)) := by
  obtain ⟨c, tail, hstart, hc⟩ := exists_start h place rest
  rw [hstart]
  intro hends
  cases hends
  exact absurd hc (by decide)

/-! ### Names and types in a row

Here the names of slots come in. A name is made of the same characters as a word, so in a slot with
a name the run at the front is the name, and in a slot without one it is the first word of the type.
-/

/-- Types whose texts start alike have the same form and go on alike. -/
theorem same_form {type other : TargetType} (h : type.WellSpelled) (h' : other.WellSpelled)
    {place : Place} {rest rest' : List Char} (hends : Ends rest) (hends' : Ends rest')
    (heq : shown place type ++ rest = shown place other ++ rest') :
    HasForm place other (type.form place) ∧
      afterWord place rest type = afterWord place rest' other := by
  rw [shown_append h, shown_append h'] at heq
  obtain ⟨hword, hafter⟩ := run_unique (isWordChar_of_mem_word h place)
    (isWordChar_of_mem_word h' place) (notAhead_afterWord hends place type)
    (notAhead_afterWord hends' place other) heq
  have hform : type.form place = other.form place := by
    rw [← ofWord_word h, ← ofWord_word h', String.toList_inj.1 hword]
  rw [hform]
  exact ⟨hasForm_form place other, hafter⟩

/-- A declared type is not named like the second word of `invalid type`. -/
theorem shown_ne_type {type : TargetType} (h : type.WellSpelled) {place : Place}
    {rest rest' : List Char} (hends : Ends rest) (hends' : Ends rest') :
    shown place type ++ rest ≠ "type".toList ++ rest' := by
  intro heq
  rw [shown_append h] at heq
  have htype : "type".toList.all isWordChar := by decide
  obtain ⟨hword, -⟩ := run_unique (isWordChar_of_mem_word h place) (List.all_eq_true.1 htype)
    (notAhead_afterWord hends place type) hends'.notAhead heq
  have hform := ofWord_word h place
  have hhas := hasForm_form place type
  rw [← hform, String.toList_inj.1 hword, show Form.ofWord "type" = .named "type" by decide] at hhas
  cases hhas
  obtain ⟨c, tail, hname, hupper, -⟩ : IsTypeName "type" := h _ .self
  obtain rfl : 't' = c := (List.cons.inj hname).1
  exact absurd hupper (by decide)

/-- **A slot with a name is not shown like a slot without one.** -/
theorem named_ne_unnamed {name : String} (hname : IsIdentifier name) {type other : TargetType}
    (h : type.WellSpelled) (h' : other.WellSpelled) {place : Place} {rest rest' : List Char}
    (hends : Ends rest) (hends' : Ends rest') :
    name.toList ++ ' ' :: (shown place type ++ rest) ≠ shown place other ++ rest' := by
  intro heq
  rw [shown_append h'] at heq
  obtain ⟨-, hafter⟩ := run_unique (isWordChar_of_isIdentifier hname)
    (isWordChar_of_mem_word h' place) (notAhead_cons.2 (by decide))
    (notAhead_afterWord hends' place other) heq
  -- the name is the word of the other type, so a type would have to stand behind this word
  cases other with
  | void => exact shown_ne_type h hends hends' (List.cons.inj hafter).2
  | scalar | opaquePointer | named => exact not_ends_blank h place rest (hafter ▸ hends')
  | varArgs =>
    cases place with
    | param => exact not_ends_blank h .param rest (hafter ▸ hends')
    | field => exact absurd (List.cons.inj hafter).1 (by decide)
  | struct fields =>
    cases fields with
    | nil => exact absurd (List.cons.inj hafter).1 (by decide)
    | cons =>
      obtain ⟨c, tail, hstart, hc⟩ := exists_start h place rest
      rw [hstart] at hafter
      obtain rfl := (List.cons.inj (List.cons.inj hafter).2).1
      exact absurd hc (by decide)
  | _ => exact absurd (List.cons.inj hafter).1 (by decide)

/-- The text of a type, with something behind it, comes from no other type. -/
def ReadOnce (type : TargetType) : Prop :=
  ∀ {place : Place} {other : TargetType} {rest rest' : List Char}, type.WellSpelled →
    other.WellSpelled → Ends rest → Ends rest' →
    shown place type ++ rest = shown place other ++ rest' → type = other ∧ rest = rest'

section Slots

variable {place : Place} {rest rest' : List Char}

theorem ends_moreShown (slots : List (Slot TargetType)) : Ends (moreShown place rest slots) := by
  cases place <;> cases slots <;> constructor

/-- A slot is found again if its type is, with its name or without one. -/
theorem slot_unique {slot slot' : Slot TargetType} (hread : ReadOnce slot.type)
    (h : SlotSpelled slot) (h' : SlotSpelled slot') (hends : Ends rest) (hends' : Ends rest')
    (heq : slotShown place rest slot = slotShown place rest' slot') :
    slot = slot' ∧ rest = rest' := by
  obtain ⟨name, type⟩ := slot
  obtain ⟨name', type'⟩ := slot'
  cases name with
  | none =>
    cases name' with
    | none =>
      obtain ⟨rfl, hrest⟩ := hread h.type h'.type hends hends' heq
      exact ⟨rfl, hrest⟩
    | some name' =>
      exact absurd heq.symm (named_ne_unnamed (h'.name name' rfl) h'.type h.type hends' hends)
  | some name =>
    cases name' with
    | none => exact absurd heq (named_ne_unnamed (h.name name rfl) h.type h'.type hends hends')
    | some name' =>
      obtain ⟨hname, hshown⟩ := run_unique (h.name name rfl).2 (h'.name name' rfl).2
        (notAhead_cons.2 (by decide)) (notAhead_cons.2 (by decide)) heq
      obtain rfl := String.toList_inj.1 hname
      obtain ⟨rfl, hrest⟩ := hread h.type h'.type hends hends' (List.cons.inj hshown).2
      exact ⟨rfl, hrest⟩

/-- A closing bracket is not the start of one more slot. -/
theorem close_ne_slotShown {slot : Slot TargetType} (h : SlotSpelled slot) :
    place.close ++ rest ≠ slotShown place rest' slot := by
  have hstart : ∃ c tail, slotShown place rest' slot = c :: tail ∧ isStart c := by
    obtain ⟨name, type⟩ := slot
    cases name with
    | none => exact exists_start h.type place rest'
    | some name =>
      have hname := h.name name rfl
      cases hchars : name.toList with
      | nil => exact absurd hchars hname.1
      | cons c tail =>
        refine ⟨c, tail ++ ' ' :: (shown place type ++ rest'), ?_, ?_⟩
        · simp [slotShown, hchars]
        · apply isStart_of_isWordChar
          apply isWordChar_of_isIdentifier hname
          simp [hchars]
  obtain ⟨c, tail, hslot, hc⟩ := hstart
  rw [hslot]
  intro heq
  cases place <;>
  · obtain rfl := (List.cons.inj heq).1
    exact absurd hc (by decide)

/-- The slots behind a first one are found again, one separator after the other. -/
theorem more_unique {slots slots' : List (Slot TargetType)}
    (hread : ∀ slot ∈ slots, ReadOnce slot.type) (h : ∀ slot ∈ slots, SlotSpelled slot)
    (h' : ∀ slot ∈ slots', SlotSpelled slot)
    (heq : moreShown place rest slots = moreShown place rest' slots') :
    slots = slots' ∧ rest = rest' := by
  induction slots generalizing slots' with
  | nil =>
    cases slots' with
    | nil => exact ⟨rfl, List.append_cancel_left heq⟩
    | cons => cases place <;> exact absurd (List.cons.inj heq).1 (by decide)
  | cons slot slots ih =>
    cases slots' with
    | nil => cases place <;> exact absurd (List.cons.inj heq).1 (by decide)
    | cons slot' slots' =>
      rw [List.forall_mem_cons] at hread h h'
      obtain ⟨rfl, hmore⟩ := slot_unique hread.1 h.1 h'.1 (ends_moreShown slots)
        (ends_moreShown slots') (List.append_cancel_left heq)
      obtain ⟨rfl, hrest⟩ := ih hread.2 h.2 h'.2 hmore
      exact ⟨rfl, hrest⟩

theorem slots_unique {slots slots' : List (Slot TargetType)}
    (hread : ∀ slot ∈ slots, ReadOnce slot.type) (h : ∀ slot ∈ slots, SlotSpelled slot)
    (h' : ∀ slot ∈ slots', SlotSpelled slot)
    (heq : slotsShown place rest slots = slotsShown place rest' slots') :
    slots = slots' ∧ rest = rest' := by
  cases slots with
  | nil =>
    cases slots' with
    | nil => exact ⟨rfl, List.append_cancel_left heq⟩
    | cons slot' slots' => exact absurd heq (close_ne_slotShown (h' slot' List.mem_cons_self))
  | cons slot slots =>
    cases slots' with
    | nil => exact absurd heq.symm (close_ne_slotShown (h slot List.mem_cons_self))
    | cons slot' slots' =>
      -- with a separator in front, these are slots behind a first one
      exact more_unique hread h h' (congrArg (place.separator ++ ·) heq)

/-- A result is told from no result by what may follow the signature. -/
theorem result_unique {results results' : List TargetType}
    (hread : ∀ result ∈ results, ReadOnce result) (h : ∀ result ∈ results, result.WellSpelled)
    (h' : ∀ result ∈ results', result.WellSpelled) (hlength : results.length ≤ 1)
    (hlength' : results'.length ≤ 1) (hends : Ends rest) (hends' : Ends rest')
    (heq : resultShown rest results = resultShown rest' results') :
    results = results' ∧ rest = rest' := by
  match results, results' with
  | [], [] => exact ⟨rfl, heq⟩
  | [], [result'] =>
    have hrest : rest = ' ' :: (shown .field result' ++ rest') := heq
    rw [hrest] at hends
    exact absurd hends (not_ends_blank (h' result' List.mem_cons_self) .field rest')
  | [result], [] =>
    have hrest : ' ' :: (shown .field result ++ rest) = rest' := heq
    rw [← hrest] at hends'
    exact absurd hends' (not_ends_blank (h result List.mem_cons_self) .field rest)
  | [result], [result'] =>
    obtain ⟨rfl, hrest⟩ := hread result List.mem_cons_self (h result List.mem_cons_self)
      (h' result' List.mem_cons_self) hends hends' (List.cons.inj heq).2
    exact ⟨rfl, hrest⟩

end Slots

/-! ### One form after the other

In each of these lemmas the other type is of the same form by `same_form`, so that only the parts
behind the word are left to be compared.
-/

/-- Types of one form that are words, or end with the same characters behind their word. -/
theorem readOnce_of_word {type : TargetType} (tail : List Char)
    (hform : ∀ place other, HasForm place other (type.form place) → other = type)
    (hafter : ∀ place rest, afterWord place rest type = tail ++ rest) : ReadOnce type := by
  intro place other rest rest' h h' hends hends' heq
  obtain ⟨hother, hrest⟩ := same_form h h' hends hends' heq
  obtain rfl := hform place other hother
  rw [hafter, hafter] at hrest
  exact ⟨rfl, List.append_cancel_left hrest⟩

theorem readOnce_pointer {pointee : TargetType} (hpointee : ReadOnce pointee) :
    ReadOnce (pointer pointee) := by
  intro place other rest rest' h h' hends hends' heq
  obtain ⟨hform, hafter⟩ := same_form h h' hends hends' heq
  cases hform with
  | pointer pointee' =>
    obtain ⟨rfl, hrest⟩ := hpointee (wellSpelled_pointer.1 h) (wellSpelled_pointer.1 h') hends
      hends' (List.cons.inj hafter).2
    exact ⟨rfl, hrest⟩
  | array | openField => exact absurd (List.cons.inj hafter).1 (by decide)

theorem readOnce_array {elem : TargetType} (helem : ReadOnce elem) (length : Nat) :
    ReadOnce (array elem length) := by
  intro place other rest rest' h h' hends hends' heq
  obtain ⟨hform, hafter⟩ := same_form h h' hends hends' heq
  cases hform with
  | pointer => exact absurd (List.cons.inj hafter).1 (by decide)
  | array elem' length' =>
    obtain ⟨rfl, hshown⟩ := repr_unique (List.cons.inj hafter).2
    obtain ⟨rfl, hrest⟩ := helem (wellSpelled_array.1 h) (wellSpelled_array.1 h') hends hends'
      hshown
    exact ⟨rfl, hrest⟩
  | openField => exact absurd (List.cons.inj hafter).2 repr_append_ne

theorem readOnce_func {s : Signature TargetType}
    (hparams : ∀ slot ∈ s.params, ReadOnce slot.type)
    (hresults : ∀ result ∈ s.results, ReadOnce result) : ReadOnce (func s) := by
  intro place other rest rest' h h' hends hends' heq
  obtain ⟨hform, hafter⟩ := same_form h h' hends hends' heq
  cases hform with
  | func s' =>
    obtain ⟨params, isVariadic, results⟩ := s
    obtain ⟨params', isVariadic', results'⟩ := s'
    obtain ⟨hspelled, hresult, hlength, hopen⟩ := wellSpelled_func.1 h
    obtain ⟨hspelled', hresult', hlength', hopen'⟩ := wellSpelled_func.1 h'
    obtain ⟨rfl, hshown⟩ := slots_unique hparams hspelled hspelled' (List.cons.inj hafter).2
    obtain ⟨rfl, hrest⟩ := result_unique hresults hresult hresult' hlength hlength' hends hends'
      hshown
    -- the parameters tell whether the signature is variadic
    obtain rfl : isVariadic = isVariadic' :=
      Bool.eq_iff_iff.2 (hopen.variadic.trans hopen'.variadic.symm)
    exact ⟨rfl, hrest⟩

theorem readOnce_struct {fields : List (Slot TargetType)}
    (hfields : ∀ slot ∈ fields, ReadOnce slot.type) : ReadOnce (struct fields) := by
  intro place other rest rest' h h' hends hends' heq
  obtain ⟨hform, hafter⟩ := same_form h h' hends hends' heq
  cases hform with
  | struct fields' =>
    match fields, fields' with
    | [], [] => exact ⟨rfl, (List.cons.inj (List.cons.inj hafter).2).2⟩
    | [], _ :: _ | _ :: _, [] => exact absurd (List.cons.inj hafter).1 (by decide)
    | slot :: fields, slot' :: fields' =>
      have hslots := (List.cons.inj (List.cons.inj (List.cons.inj hafter).2).2).2
      obtain ⟨hall, hrest⟩ := slots_unique hfields (wellSpelled_struct.1 h)
        (wellSpelled_struct.1 h') hslots
      exact ⟨congrArg struct hall, hrest⟩

/-- Outside of parameter lists an open end is spelled like an array, but no length stands in its
brackets. -/
theorem readOnce_varArgs : ReadOnce varArgs := by
  intro place other rest rest' h h' hends hends' heq
  obtain ⟨hform, hafter⟩ := same_form h h' hends hends' heq
  cases place with
  | param =>
    cases hform
    exact ⟨rfl, hafter⟩
  | field =>
    cases hform with
    | pointer => exact absurd (List.cons.inj hafter).1 (by decide)
    | array => exact absurd (List.cons.inj hafter).2.symm repr_append_ne
    | openField => exact ⟨rfl, by simpa [afterWord] using hafter⟩

/-! ### All types

Signatures and structs hold lists of slots, and the induction that Lean makes for such types goes
through these lists. `part_ind` is the induction that is needed here, on the types in the slots.
-/

theorem sizeOf_slot_lt {slot : Slot TargetType} {slots : List (Slot TargetType)}
    (h : slot ∈ slots) : sizeOf slot.type < sizeOf slots := by
  have hslot := List.sizeOf_lt_of_mem h
  obtain ⟨name, type⟩ := slot
  rw [Slot.mk.sizeOf_spec] at hslot
  show sizeOf type < sizeOf slots
  omega

/-- **Induction on types**: what holds of a type if it holds of its parts, holds of all types. -/
theorem part_ind {motive : TargetType → Prop} (void : motive void)
    (scalar : ∀ s, motive (scalar s)) (opaquePointer : motive opaquePointer)
    (pointer : ∀ pointee, motive pointee → motive (pointer pointee))
    (array : ∀ elem length, motive elem → motive (array elem length))
    (func : ∀ s : Signature TargetType, (∀ slot ∈ s.params, motive slot.type) →
      (∀ result ∈ s.results, motive result) → motive (func s))
    (named : ∀ name, motive (named name))
    (struct : ∀ fields : List (Slot TargetType), (∀ slot ∈ fields, motive slot.type) →
      motive (struct fields))
    (varArgs : motive varArgs) : ∀ type, motive type := by
  intro type
  induction hsize : sizeOf type using Nat.strongRecOn generalizing type with
  | ind size ih =>
    subst hsize
    cases type with
    | void => exact void
    | scalar s => exact scalar s
    | opaquePointer => exact opaquePointer
    | pointer pointee => exact pointer pointee (ih _ (by simp) pointee rfl)
    | array elem length => exact array elem length (ih _ (by simp; omega) elem rfl)
    | func s =>
      obtain ⟨params, isVariadic, results⟩ := s
      apply func
      · intro slot hslot
        have hlt := sizeOf_slot_lt hslot
        exact ih _ (by simp at hlt ⊢; omega) slot.type rfl
      · intro result hresult
        have hlt := List.sizeOf_lt_of_mem hresult
        exact ih _ (by simp at hlt ⊢; omega) result rfl
    | named name => exact named name
    | struct fields =>
      apply struct
      intro slot hslot
      have hlt := sizeOf_slot_lt hslot
      exact ih _ (by simp; omega) slot.type rfl
    | varArgs => exact varArgs

theorem readOnce (type : TargetType) : ReadOnce type := by
  induction type using part_ind with
  | void =>
    exact readOnce_of_word [' ', 't', 'y', 'p', 'e'] (by rintro _ _ ⟨⟩; rfl) fun _ _ => rfl
  | scalar s => exact readOnce_of_word [] (by rintro _ _ ⟨⟩; rfl) fun _ _ => rfl
  | opaquePointer => exact readOnce_of_word [] (by rintro _ _ ⟨⟩; rfl) fun _ _ => rfl
  | pointer pointee hpointee => exact readOnce_pointer hpointee
  | array elem length helem => exact readOnce_array helem length
  | func s hparams hresults => exact readOnce_func hparams hresults
  | named name => exact readOnce_of_word [] (by rintro _ _ ⟨⟩; rfl) fun _ _ => rfl
  | struct fields hfields => exact readOnce_struct hfields
  | varArgs => exact readOnce_varArgs

/-- **Different types have different texts**, if their names are identifiers, those of types with an
upper-case letter in front, and their signatures have at most one result and an open end exactly if
they are variadic, at the end. -/
theorem render_ne_of_ne {type other : TargetType} (h : type.WellSpelled) (h' : other.WellSpelled)
    (hne : type ≠ other) : type.render ≠ other.render := by
  intro heq
  have hshown : shown .field type ++ [] = shown .field other ++ [] := by
    rw [shown_field, shown_field, heq]
  exact hne (readOnce type h h' .nil .nil hshown).1

/-- The field without a name in `struct { invalid type }` and the field in
`struct { invalid Type }`. -/
theorem render_ne_of_ne_invalid :
    (struct [⟨none, void⟩]).WellSpelled ∧ (struct [⟨some "invalid", named "Type"⟩]).WellSpelled ∧
      (struct [⟨none, void⟩]).render ≠ (struct [⟨some "invalid", named "Type"⟩]).render := by
  have hunnamed : (struct [⟨none, void⟩]).WellSpelled := by
    apply wellSpelled_struct.2
    rw [List.forall_mem_singleton]
    refine ⟨by simp, ?_⟩
    intro part hoccurs
    cases hoccurs
    trivial
  have hnamed : (struct [⟨some "invalid", named "Type"⟩]).WellSpelled := by
    apply wellSpelled_struct.2
    rw [List.forall_mem_singleton]
    refine ⟨?_, ?_⟩
    · intro name hname
      cases hname
      have hchars : "invalid".toList.all isIdentifierChar := by decide
      exact ⟨by decide, List.all_eq_true.1 hchars⟩
    · intro part hoccurs
      cases hoccurs
      have hchars : ['y', 'p', 'e'].all isIdentifierChar := by decide
      exact ⟨'T', _, by decide, by decide, List.all_eq_true.1 hchars⟩
  exact ⟨hunnamed, hnamed, render_ne_of_ne hunnamed hnamed (by simp)⟩

end TargetType

end HeaderBindings
