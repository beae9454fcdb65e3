import HeaderBindings.Proofs.Conversion.Parts
import HeaderBindings.Proofs.Text.Decimal

/-!
# How types are spelled

The text of a type starts with a word that tells its form: a keyword, the name of a scalar or of a
declared type, or no word at all in front of a star or a bracket (`ofWord_word`). Behind the word
stand the texts of the parts (`shown_append`). This needs names that cannot be taken for keywords,
separators or brackets, and signatures that show whether they are variadic (`WellSpelled`).

The texts themselves are made by joining strings, and are defined for all types. The functions of
this module give the same characters in the form in which they can be read from the front: each of
them gets what follows, and puts its own characters in front of that. So `shown_append` is the
bridge between both, and all that is said later about reading texts is said about the second form.

| what | its characters, in front of `rest` |
|---|---|
| a type | its word, then `afterWord` |
| a slot | its name and a blank if it has a name, then its type (`slotShown`) |
| slots | one slot, then the others with a separator in front of each (`slotsShown`, `moreShown`) |
| a result | a blank and the type, if there is a result (`resultShown`) |

Open ends are the exception: the last parameter of a variadic list is written as three dots and a
word, whatever its type is. In signatures that are spelled well, that is the place of the open end
and of nothing else (`OpenAtEnd`), so the dots belong to the form of an open end in a parameter
list.
-/

namespace HeaderBindings

/-! ### Names -/

/-- Letters, digits and underscores. Outside of ASCII, any character may be a letter. -/
def isIdentifierChar (c : Char) : Bool := c.isAlphanum || c == '_' || 0x80 ≤ c.toNat

def IsIdentifier (name : String) : Prop :=
  name.toList ≠ [] ∧ ∀ c ∈ name.toList, isIdentifierChar c

/-- An identifier that starts with an upper-case letter of ASCII. -/
def IsTypeName (name : String) : Prop :=
  ∃ c rest, name.toList = c :: rest ∧ c.isUpper ∧ ∀ d ∈ rest, isIdentifierChar d

namespace TargetType

/-! ### Types that are spelled well

What is asked of a type is asked of each of its parts (`PartSpelled`), and the lemmas below pass it
on from a type to the parts and back.
-/

/-- The open end of a parameter list stands at its end, and is there exactly if the list is
variadic. -/
structure OpenAtEnd (isVariadic : Bool) (params : List (Slot TargetType)) : Prop where
  variadic : isVariadic = true ↔ ∃ slot ∈ params, slot.type = .varArgs
  last : ∀ slot ∈ params.dropLast, slot.type ≠ .varArgs

def NamesSpelled (slots : List (Slot TargetType)) : Prop :=
  ∀ slot ∈ slots, ∀ name ∈ slot.name, IsIdentifier name

/-- What has to hold of a type besides its parts. -/
def PartSpelled : TargetType → Prop
  | named name => IsTypeName name
  | func s => NamesSpelled s.params ∧ s.results.length ≤ 1 ∧ OpenAtEnd s.variadic s.params
  | struct fields => NamesSpelled fields
  | _ => True

/-- All names in a type are identifiers, those of types with an upper-case letter in front, and all
its signatures have at most one result and an open end exactly if they are variadic, at the end. -/
def WellSpelled (type : TargetType) : Prop :=
  ∀ part : TargetType, part.Occurs type → part.PartSpelled

structure SlotSpelled (slot : Slot TargetType) : Prop where
  name : ∀ name ∈ slot.name, IsIdentifier name
  type : slot.type.WellSpelled

theorem wellSpelled_pointer {pointee : TargetType} :
    (pointer pointee).WellSpelled ↔ pointee.WellSpelled := by
  constructor
  · exact fun h part hoccurs => h part (.pointer hoccurs)
  · intro h part hoccurs
    cases hoccurs with
    | self => trivial
    | pointer hoccurs => exact h part hoccurs

theorem wellSpelled_array {elem : TargetType} {length : Nat} :
    (array elem length).WellSpelled ↔ elem.WellSpelled := by
  constructor
  · exact fun h part hoccurs => h part (.array hoccurs)
  · intro h part hoccurs
    cases hoccurs with
    | self => trivial
    | array hoccurs => exact h part hoccurs

theorem wellSpelled_func {s : Signature TargetType} :
    (func s).WellSpelled ↔
      (∀ slot ∈ s.params, SlotSpelled slot) ∧ (∀ result ∈ s.results, result.WellSpelled) ∧
        s.results.length ≤ 1 ∧ OpenAtEnd s.variadic s.params := by
  constructor
  · intro h
    obtain ⟨hnames, hlength, hopen⟩ : PartSpelled (func s) := h _ .self
    exact ⟨fun slot hslot => ⟨hnames slot hslot, fun part hoccurs => h part (.param hslot hoccurs)⟩,
      fun result hresult part hoccurs => h part (.result hresult hoccurs), hlength, hopen⟩
  · rintro ⟨hparams, hresults, hlength, hopen⟩ part hoccurs
    cases hoccurs with
    | self => exact ⟨fun slot hslot => (hparams slot hslot).name, hlength, hopen⟩
    | param hslot hoccurs => exact (hparams _ hslot).type part hoccurs
    | result hresult hoccurs => exact hresults _ hresult part hoccurs

theorem wellSpelled_struct {fields : List (Slot TargetType)} :
    (struct fields).WellSpelled ↔ ∀ slot ∈ fields, SlotSpelled slot := by
  constructor
  · intro h slot hslot
    have hnames : NamesSpelled fields := h (struct fields) .self
    exact ⟨hnames slot hslot, fun part hoccurs => h part (.field hslot hoccurs)⟩
  · intro h part hoccurs
    cases hoccurs with
    | self => exact fun slot hslot => (h slot hslot).name
    | field hslot hoccurs => exact (h _ hslot).type part hoccurs

/-! ### Texts of types and slots

A text is given together with what follows it, so that the texts of parts follow one another. -/

/-- Where a type stands. Only as a parameter, an open end is written in a way of its own. -/
inductive Place where
  | param | field
  deriving DecidableEq

namespace Place

/-- What stands between two slots. -/
def separator : Place → List Char
  | param => [',', ' ']
  | field => [';', ' ']

/-- What stands behind the last slot. -/
def close : Place → List Char
  | param => [')']
  | field => [' ', '\x7d']

end Place

/-- The text of a type in a place. -/
def shown (place : Place) (type : TargetType) : List Char :=
  match place, type with
  | .param, .varArgs => ['.', '.', '.', 'a', 'n', 'y']
  | _, type => type.render.toList

/-- A slot in a place, in front of a text. -/
def slotShown (place : Place) (rest : List Char) (slot : Slot TargetType) : List Char :=
  match slot.name with
  | some name => name.toList ++ ' ' :: (shown place slot.type ++ rest)
  | none => shown place slot.type ++ rest

/-- The slots behind the first one, and the closing bracket. -/
def moreShown (place : Place) (rest : List Char) : List (Slot TargetType) → List Char
  | [] => place.close ++ rest
  | slot :: slots => place.separator ++ slotShown place (moreShown place rest slots) slot

/-- Slots and the closing bracket. -/
def slotsShown (place : Place) (rest : List Char) : List (Slot TargetType) → List Char
  | [] => place.close ++ rest
  | slot :: slots => slotShown place (moreShown place rest slots) slot

/-- The result of a signature, in front of a text; of several results only the first one
is shown. -/
def resultShown (rest : List Char) : List TargetType → List Char
  | [] => rest
  | result :: _ => ' ' :: (shown .field result ++ rest)

theorem shown_field (type : TargetType) : shown .field type = type.render.toList := rfl

theorem shown_of_ne {type : TargetType} (h : type ≠ .varArgs) (place : Place) :
    shown place type = type.render.toList := by
  unfold shown
  split
  · exact absurd rfl h
  · rfl

/-- A text spells a slot. -/
def SpellsSlot (place : Place) (text : String) (slot : Slot TargetType) : Prop :=
  ∀ rest, text.toList ++ rest = slotShown place rest slot

theorem spellsSlot_withName {place : Place} {text : String} {type : TargetType}
    (h : text.toList = shown place type) (name : Option String) :
    SpellsSlot place (withName name text) ⟨name, type⟩ := by
  intro rest
  cases name with
  | none => rw [withName, h, slotShown]
  | some name =>
    rw [withName, String.toList_append, String.toList_append, h, slotShown]
    simp

theorem joined_append {place : Place} {separator : String}
    (hseparator : separator.toList = place.separator) {texts : List String}
    {slots : List (Slot TargetType)} (h : List.Forall₂ (SpellsSlot place) texts slots)
    (rest : List Char) :
    (Text.joined separator texts).toList ++ (place.close ++ rest) =
      slotsShown place rest slots := by
  induction h with
  | nil => rfl
  | @cons text slot texts slots hslot hslots ih =>
    cases hslots with
    | nil => exact hslot _
    | @cons next nextSlot texts slots _ _ =>
      have hjoined : Text.joined separator (text :: next :: texts) =
          text ++ separator ++ Text.joined separator (next :: texts) := rfl
      rw [hjoined, String.toList_append, String.toList_append, hseparator, List.append_assoc,
        List.append_assoc, ih, hslot]
      rfl

theorem renderFields_spells (fields : List (Slot TargetType)) :
    List.Forall₂ (SpellsSlot .field) (renderFields fields) fields := by
  induction fields with
  | nil => exact .nil
  | cons slot rest ih =>
    obtain ⟨name, type⟩ := slot
    rw [renderFields]
    exact .cons (spellsSlot_withName rfl name) ih

/-- The last parameter of a list shows an open end exactly if it is one. -/
theorem renderParams_spells {isVariadic : Bool} {params : List (Slot TargetType)}
    (h : OpenAtEnd isVariadic params) :
    List.Forall₂ (SpellsSlot .param) (renderParams isVariadic params) params := by
  induction params with
  | nil => exact .nil
  | cons slot rest ih =>
    obtain ⟨name, type⟩ := slot
    rw [renderParams]
    cases rest with
    | nil =>
      have hopen : isVariadic = true ↔ type = .varArgs := by simpa using h.variadic
      refine .cons (spellsSlot_withName ?_ name) .nil
      by_cases htype : type = .varArgs
      · rw [htype, hopen.2 htype]
        rfl
      · rw [shown_of_ne htype, Bool.eq_false_iff.2 fun hv => htype (hopen.1 hv)]
        rfl
    | cons next rest =>
      have htype : type ≠ .varArgs := h.last ⟨name, type⟩ (by simp)
      have hrest : OpenAtEnd isVariadic (next :: rest) := by
        refine ⟨?_, fun slot hslot => h.last slot (by simp [hslot])⟩
        have hvariadic := h.variadic
        simp only [List.mem_cons, exists_eq_or_imp, or_iff_right htype] at hvariadic ⊢
        exact hvariadic
      refine .cons (spellsSlot_withName ?_ name) (ih hrest)
      rw [List.isEmpty_cons, Bool.and_false, shown_of_ne htype]
      rfl

/-! ### The first word of a type

Words are compared by the forms that they tell. For this the words of all forms but that of a
declared type are listed; they differ from each other, and none of them starts like the name of a
declared type.
-/

/-- What the first word of a type tells about it. -/
inductive Form where
  | void
  | scalar (s : Scalar)
  | opaquePointer
  | func
  | named (name : String)
  | struct
  | openEnd
  /-- There is no word in front of a star or a bracket. -/
  | wordless
  deriving DecidableEq

namespace Form

def word : Form → String
  | void => "invalid"
  | scalar s => s.text
  | opaquePointer => "c.Pointer"
  | func => "func"
  | named name => name
  | struct => "struct"
  | openEnd => "...any"
  | wordless => ""

def scalars : List Scalar :=
  [.bool, .char, .uint8, .int16, .uint16, .int32, .int, .uint, .long, .ulong, .longLong, .ulongLong,
    .float, .double, .complex64, .complex128]

/-- The forms that have a word of their own. -/
def keywords : List Form :=
  [void, opaquePointer, func, struct, openEnd, wordless] ++ scalars.map scalar

/-- The form that has a word. -/
def ofWord (w : String) : Form := (keywords.find? fun form => form.word = w).getD (named w)

theorem scalar_mem_keywords (s : Scalar) : scalar s ∈ keywords := by
  cases s <;> decide

theorem ofWord_word_of_keyword : ∀ form ∈ keywords, ofWord form.word = form := by
  decide

theorem not_isUpper_of_keyword :
    ∀ form ∈ keywords, form.word.toList.head?.all fun c => !c.isUpper := by
  decide

/-- No keyword starts with an upper-case letter. -/
theorem ofWord_of_isTypeName {name : String} (h : IsTypeName name) : ofWord name = named name := by
  obtain ⟨c, rest, hname, hupper, -⟩ := h
  have hnone : (keywords.find? fun form => form.word = name) = none := by
    apply List.find?_eq_none.2
    intro form hform hword
    have hlower := not_isUpper_of_keyword form hform
    rw [of_decide_eq_true hword, hname, List.head?_cons, Option.all_some, hupper] at hlower
    exact absurd hlower (by decide)
  rw [ofWord, hnone]
  rfl

end Form

def form (place : Place) : TargetType → Form
  | void => .void
  | scalar s => .scalar s
  | opaquePointer => .opaquePointer
  | pointer _ | array _ _ => .wordless
  | func _ => .func
  | named name => .named name
  | struct _ => .struct
  | varArgs => if place = .param then .openEnd else .wordless

/-- The types that have a form in a place. -/
inductive HasForm : Place → TargetType → Form → Prop where
  | void {place} : HasForm place void .void
  | scalar {place} (s) : HasForm place (scalar s) (.scalar s)
  | opaquePointer {place} : HasForm place opaquePointer .opaquePointer
  | pointer {place} (pointee) : HasForm place (pointer pointee) .wordless
  | array {place} (elem length) : HasForm place (array elem length) .wordless
  | func {place} (s) : HasForm place (func s) .func
  | named {place} (name) : HasForm place (named name) (.named name)
  | struct {place} (fields) : HasForm place (struct fields) .struct
  | openParam : HasForm .param varArgs .openEnd
  | openField : HasForm .field varArgs .wordless

theorem hasForm_form (place : Place) (type : TargetType) :
    HasForm place type (type.form place) := by
  cases type with
  | varArgs => cases place <;> constructor
  | _ => constructor

theorem form_mem_keywords_or (place : Place) (type : TargetType) :
    type.form place ∈ Form.keywords ∨ ∃ name, type = named name := by
  cases type with
  | named name => exact .inr ⟨name, rfl⟩
  | scalar s => exact .inl (Form.scalar_mem_keywords s)
  | varArgs => cases place <;> exact .inl (by decide)
  | _ => exact .inl (by simp [form, Form.keywords])

/-- **The first word of a type tells its form.** -/
theorem ofWord_word {type : TargetType} (h : type.WellSpelled) (place : Place) :
    Form.ofWord (type.form place).word = type.form place := by
  obtain hkeyword | ⟨name, rfl⟩ := form_mem_keywords_or place type
  · exact Form.ofWord_word_of_keyword _ hkeyword
  · exact Form.ofWord_of_isTypeName (h _ .self)

/-- Fields in braces. Without fields, no blank stands at the braces. -/
def bracesShown (rest : List Char) : List (Slot TargetType) → List Char
  | [] => '\x7b' :: '\x7d' :: rest
  | fields => ' ' :: '\x7b' :: ' ' :: slotsShown .field rest fields

/-- What stands behind the first word of a type. -/
def afterWord (place : Place) (rest : List Char) : TargetType → List Char
  | void => ' ' :: 't' :: 'y' :: 'p' :: 'e' :: rest
  | scalar _ | opaquePointer | named _ => rest
  | pointer pointee => '*' :: (shown .field pointee ++ rest)
  | array elem length => '[' :: (length.repr.toList ++ ']' :: (shown .field elem ++ rest))
  | func s => '(' :: slotsShown .param (resultShown rest s.results) s.params
  | struct fields => bracesShown rest fields
  | varArgs => if place = .param then rest else '[' :: ']' :: 'a' :: 'n' :: 'y' :: rest

/-- **A type is spelled as its first word and its parts.** The cases follow the constructors of
types; open ends are told apart by the place. -/
theorem shown_append {type : TargetType} (h : type.WellSpelled) (place : Place)
    (rest : List Char) :
    shown place type ++ rest = (type.form place).word.toList ++ afterWord place rest type := by
  by_cases hopen : type = .varArgs
  · subst hopen
    cases place <;> simp [shown, render, form, Form.word, afterWord]
  rw [shown_of_ne hopen]
  cases type with
  | varArgs => exact absurd rfl hopen
  | void => simp [render, form, Form.word, afterWord]
  | scalar | opaquePointer | named => simp only [render, form, Form.word, afterWord]
  | pointer pointee => simp [render, form, Form.word, afterWord, shown_field]
  | array elem length => simp [render, form, Form.word, afterWord, shown_field]
  | func s =>
    obtain ⟨params, isVariadic, results⟩ := s
    obtain ⟨-, -, -, hopen⟩ := wellSpelled_func.1 h
    have hparams := joined_append (rfl : ", ".toList = Place.param.separator)
      (renderParams_spells hopen) (resultShown rest results)
    have hresult : (renderResult results).toList ++ rest = resultShown rest results := by
      cases results <;> simp [renderResult, resultShown, shown_field]
    rw [← hresult] at hparams
    simp [render, form, Form.word, afterWord, ← hresult, ← hparams, Place.close]
  | struct fields =>
    have hfields := joined_append (rfl : "; ".toList = Place.field.separator)
      (renderFields_spells fields) rest
    cases fields with
    | nil => simp [render, form, Form.word, afterWord, bracesShown]
    | cons slot fields =>
      simp [render, form, Form.word, afterWord, bracesShown, ← hfields, Place.close]

end TargetType

end HeaderBindings
