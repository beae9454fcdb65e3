import HeaderBindings.Proofs.Conversion.Parts

/-!
# The cause for which a conversion fails

A conversion comes to the parts of a type one after the other: to a pointee before the pointer, to
an element before the length of its array, and to parameters from left to right before the result
(`CType.parts`). Each part is at fault or not for what is written there, whatever its own parts are
(`Converter.Blames`). A conversion succeeds exactly if no part is at fault, and else it fails for
the first one that is (`Converter.type_fails_for_first`).

The induction is on types together with parameter lists. What it needs of conversions that follow
each other is stated once (`Converter.Accounts.bind`).
-/

namespace HeaderBindings

/-! ### The parts of a type

A part stands in a type together with its position, since an array without a length is at fault as a
pointee but not as a parameter, and a `...` is at fault only in front of other parameters.
-/

namespace CType

/-- The place of a part in a type. -/
inductive Position where
  /-- A pointee, an element or a result. -/
  | value
  | param (isLast : Bool)

def Position.isParam : Position → Bool
  | value => false
  | param _ => true

/-- The place of a whole type. As a parameter it has no others behind it. -/
def Position.outermost (asParam : Bool) : Position := if asParam then .param true else .value

/-- A part of a type with its position. -/
structure Part where
  position : Position
  type : CType

mutual

/-- The parts of a type in the order in which a conversion is done with them. -/
def parts (position : Position) : CType → List Part
  | builtin b => [⟨position, builtin b⟩]
  | pointer pointee => parts .value pointee ++ [⟨position, pointer pointee⟩]
  | array elem length => parts .value elem ++ [⟨position, array elem length⟩]
  | func ⟨params, isVariadic, result⟩ =>
    paramParts params ++ (parts .value result ++ [⟨position, func ⟨params, isVariadic, result⟩⟩])
  | named ref => [⟨position, named ref⟩]
  | variadic => [⟨position, variadic⟩]

/-- The parts of parameters, from left to right. -/
def paramParts : List (Slot CType) → List Part
  | [] => []
  | ⟨_, type⟩ :: rest => parts (.param rest.isEmpty) type ++ paramParts rest

end

end CType

namespace Converter

open CType

variable {c : Converter}

/-! ### Parts at fault

One constructor for each cause. Whether a part is at fault is told by looking at it alone, at the
rules and at the registered names, and never by converting the parts within it.
-/

/-- A part of a type is at fault. The cause names the builtin, the reference or the length as it is
written. -/
inductive Blames (c : Converter) : Part → ConversionError → Prop where
  | builtin {position : Position} {b : Builtin} : Catalog.builtin? b = none →
    Blames c ⟨position, .builtin b⟩ (.unresolvedBuiltin b)
  | anonymous {position : Position} {ref : NamedRef} : ref.name = "" →
    Blames c ⟨position, .named ref⟩ .anonymousReference
  | unknown {position : Position} {ref : NamedRef} : ref.name ≠ "" →
    Catalog.typedef? (c.rules.trim ref.name) = none →
    Text.camelCase (c.rules.trim ref.name) ∉ c.types →
    Blames c ⟨position, .named ref⟩ (.unresolvedAlias ref.name)
  | withoutLength {elem : CType} : Blames c ⟨.value, .array elem none⟩ .arrayWithoutLength
  | length {elem : CType} {length : Constant} :
    (¬ ∃ n, length.closedValue? = some n ∧ 0 ≤ n) →
    Blames c ⟨.value, .array elem (some length)⟩ (.unresolvedArrayLength length)
  | misplaced : Blames c ⟨.param false, .variadic⟩ .misplacedVariadic

/-- A part is at fault for one cause only. -/
theorem Blames.unique {part : Part} {cause cause' : ConversionError} (h : c.Blames part cause)
    (h' : c.Blames part cause') : cause = cause' := by
  cases h <;> cases h' <;> first | rfl | contradiction

/-- A part is at fault for some cause. -/
def Faulty (c : Converter) (part : Part) : Prop := ∃ cause, c.Blames part cause

/-- The first part that is at fault is so for this cause. -/
def FirstBlames (c : Converter) (parts : List Part) (cause : ConversionError) : Prop :=
  ∃ front part back, parts = front ++ part :: back ∧
    (∀ earlier ∈ front, ¬ c.Faulty earlier) ∧ c.Blames part cause

/-- The first part at fault is one of the parts. -/
theorem FirstBlames.exists_faulty {parts : List Part} {cause : ConversionError}
    (h : c.FirstBlames parts cause) : ∃ part ∈ parts, c.Faulty part := by
  obtain ⟨front, part, back, rfl, -, hblames⟩ := h
  exact ⟨part, List.mem_append_right front List.mem_cons_self, cause, hblames⟩

/-- There is one first part at fault, and it has one cause. -/
theorem FirstBlames.unique {parts : List Part} {cause cause' : ConversionError}
    (h : c.FirstBlames parts cause) (h' : c.FirstBlames parts cause') : cause = cause' := by
  obtain ⟨front, part, back, rfl, hfront, hblames⟩ := h
  obtain ⟨front', part', back', hsplit, hfront', hblames'⟩ := h'
  induction front generalizing front' with
  | nil =>
    cases front' with
    | nil =>
      cases hsplit
      exact hblames.unique hblames'
    | cons first front' =>
      cases hsplit
      exact absurd ⟨cause, hblames⟩ (hfront' part List.mem_cons_self)
  | cons first front ih =>
    cases front' with
    | nil =>
      cases hsplit
      exact absurd ⟨cause', hblames'⟩ (hfront part' List.mem_cons_self)
    | cons first' front' =>
      obtain ⟨-, hsplit⟩ := List.cons.inj hsplit
      exact ih (List.forall_mem_cons.1 hfront).2 front' hsplit (List.forall_mem_cons.1 hfront').2

/-! ### Conversions that account for parts

Conversions are sequences of steps that stop at the first failure, and the parts of a type are put
together from those of its pieces in the same order. So the two are compared step by step: if each
step accounts for its own parts, the sequence accounts for all of them.
-/

/-- The result of a conversion is what parts make of it: a success if none of them is at fault, and
the cause of the first one otherwise. -/
def Accounts {α : Type} (c : Converter) (parts : List Part) : Result α → Prop
  | .ok _ => ∀ part ∈ parts, ¬ c.Faulty part
  | .error cause => c.FirstBlames parts cause

/-- **Conversions that follow each other account for their parts in this order.** -/
theorem Accounts.bind {α β : Type} {parts others : List Part} {x : Result α} {f : α → Result β}
    (hx : c.Accounts parts x) (hf : ∀ a, c.Accounts others (f a)) :
    c.Accounts (parts ++ others) (x >>= f) := by
  cases x with
  | error cause =>
    obtain ⟨front, part, back, rfl, hfront, hblames⟩ := hx
    exact ⟨front, part, back ++ others, List.append_assoc _ _ _, hfront, hblames⟩
  | ok a =>
    have ha := hf a
    show c.Accounts (parts ++ others) (f a)
    cases hfa : f a with
    | error cause =>
      rw [hfa] at ha
      obtain ⟨front, part, back, rfl, hfront, hblames⟩ := ha
      exact ⟨parts ++ front, part, back, (List.append_assoc _ _ _).symm,
        List.forall_mem_append.2 ⟨hx, hfront⟩, hblames⟩
    | ok b =>
      rw [hfa] at ha
      exact List.forall_mem_append.2 ⟨hx, ha⟩

/-- What is made of the result of a conversion without fail is accounted for by the same parts. -/
theorem Accounts.bind_ok {α β : Type} {parts : List Part} {x : Result α} {f : α → Result β}
    (hx : c.Accounts parts x) (hf : ∀ a, ∃ b, f a = .ok b) : c.Accounts parts (x >>= f) := by
  cases x with
  | error cause => exact hx
  | ok a =>
    obtain ⟨b, hb⟩ := hf a
    show c.Accounts parts (f a)
    rw [hb]
    exact hx

/-- A conversion that accounts for parts succeeds exactly if none of them is at fault. -/
theorem Accounts.exists_ok_iff {α : Type} {parts : List Part} {x : Result α}
    (h : c.Accounts parts x) : (∃ a, x = .ok a) ↔ ∀ part ∈ parts, ¬ c.Faulty part := by
  cases x with
  | ok a => exact ⟨fun _ => h, fun _ => ⟨a, rfl⟩⟩
  | error cause =>
    refine ⟨nofun, fun hnone => ?_⟩
    obtain ⟨part, hpart, hfaulty⟩ := FirstBlames.exists_faulty h
    exact absurd hfaulty (hnone part hpart)

/-- A conversion that accounts for parts fails exactly for the cause of the first one at fault. -/
theorem Accounts.eq_error_iff {α : Type} {parts : List Part} {x : Result α}
    (h : c.Accounts parts x) {cause : ConversionError} :
    x = .error cause ↔ c.FirstBlames parts cause := by
  cases x with
  | ok a =>
    refine ⟨nofun, fun hfirst => ?_⟩
    obtain ⟨part, hpart, hfaulty⟩ := hfirst.exists_faulty
    exact absurd hfaulty (h part hpart)
  | error own =>
    constructor
    · rintro ⟨⟩
      exact h
    · intro hfirst
      rw [FirstBlames.unique h hfirst]

/-- A success accounts for a part that is not at fault. -/
theorem accounts_ok {α : Type} {part : Part} (h : ¬ c.Faulty part) (a : α) :
    c.Accounts [part] (.ok a) :=
  List.forall_mem_singleton.2 h

/-- A failure accounts for the part that is at fault for its cause. -/
theorem accounts_error {α : Type} {part : Part} {cause : ConversionError}
    (h : c.Blames part cause) : c.Accounts [part] (.error cause : Result α) :=
  ⟨[], part, [], rfl, List.forall_mem_nil _, h⟩

/-! ### Single parts

The parts that can be at fault are builtins, references, arrays and a `...`. Pointers and functions
never are.
-/

/-- A builtin is at fault if it has no target type. -/
theorem accounts_builtin (position : Position) (b : Builtin) :
    c.Accounts [⟨position, .builtin b⟩] (builtin b) := by
  rw [builtin]
  split
  · next type hfound =>
    refine accounts_ok ?_ type
    rintro ⟨_, hblames⟩
    cases hblames with
    | builtin hnone => cases hfound.symm.trans hnone
  · next hnone => exact accounts_error (.builtin hnone)

/-- A reference is at fault if it has no name, or a name that is neither known nor registered. -/
theorem accounts_reference (position : Position) (ref : NamedRef) :
    c.Accounts [⟨position, .named ref⟩] (c.reference ref) := by
  rw [reference]
  split
  · next hname => exact accounts_error (.anonymous hname)
  · next hname =>
    split
    · next known hknown =>
      refine accounts_ok ?_ known.type
      rintro ⟨_, hblames⟩
      cases hblames with
      | anonymous hempty => exact hname hempty
      | unknown _ hnone _ => cases hknown.symm.trans hnone
    · next hnone =>
      dsimp only
      split
      · next hmem =>
        refine accounts_ok ?_ _
        rintro ⟨_, hblames⟩
        cases hblames with
        | anonymous hempty => exact hname hempty
        | unknown _ _ hnot => exact hnot hmem
      · next hnot => exact accounts_error (.unknown hname hnone hnot)

/-- The length of an array is at fault if it is no number from zero on. -/
theorem accounts_arrayLength (elem : CType) (length : Constant) :
    c.Accounts [⟨.value, .array elem (some length)⟩] (arrayLength length) := by
  rw [arrayLength]
  split
  · next n hn =>
    split
    · next hneg =>
      refine accounts_error (.length ?_)
      rintro ⟨m, hm, hpos⟩
      cases hn.symm.trans hm
      exact absurd hneg (Int64.not_lt.2 hpos)
    · next hpos =>
      refine accounts_ok ?_ _
      rintro ⟨_, hblames⟩
      cases hblames with
      | length hnone => exact hnone ⟨n, hn, Int64.not_lt.1 hpos⟩
  · next hn =>
    refine accounts_error (.length ?_)
    rintro ⟨m, hm, -⟩
    cases hn.symm.trans hm

/-- Behind its element, an array is at fault for its length only, and for that only where it does
not decay. -/
theorem accounts_array (position : Position) (elem : CType) (length : Option Constant)
    (converted : TargetType) :
    c.Accounts [⟨position, .array elem length⟩]
      (do if position.isParam then return .pointer converted
          match length with
          | none => throw .arrayWithoutLength
          | some length => return .array converted (← arrayLength length) :
        Result TargetType) := by
  cases position with
  | param isLast =>
    refine accounts_ok ?_ (TargetType.pointer converted)
    rintro ⟨_, ⟨⟩⟩
  | value =>
    cases length with
    | none => exact accounts_error .withoutLength
    | some length =>
      exact (accounts_arrayLength elem length).bind_ok fun n => ⟨.array converted n, rfl⟩

/-! ### Whole types -/

-- by induction on types together with parameter lists; a `...` among parameters is not converted,
-- so its place matters only where it is not the last one

mutual

/-- **A conversion accounts for the parts of a type.** -/
theorem accounts_type : ∀ (t : CType) (position : Position),
    (t = .variadic → position ≠ .param false) →
      c.Accounts (t.parts position) (c.type position.isParam t)
  | .builtin b, position, _ => by
    rw [Converter.type, parts]
    exact accounts_builtin position b
  | .pointer pointee, position, _ => by
    rw [Converter.type, parts]
    refine (accounts_type pointee .value fun _ => nofun).bind fun converted => ?_
    refine accounts_ok ?_ (pointerTo converted)
    rintro ⟨_, ⟨⟩⟩
  | .array elem length, position, _ => by
    rw [Converter.type, parts]
    exact (accounts_type elem .value fun _ => nofun).bind (accounts_array position elem length)
  | .func ⟨ps, isVariadic, result⟩, position, _ => by
    rw [Converter.type, parts]
    refine (accounts_params ps).bind fun ⟨converted, isOpen⟩ => ?_
    refine (accounts_type result .value fun _ => nofun).bind fun convertedResult => ?_
    refine accounts_ok ?_ _
    rintro ⟨_, ⟨⟩⟩
  | .named ref, position, _ => by
    rw [Converter.type, parts]
    exact accounts_reference position ref
  | .variadic, position, h => by
    rw [Converter.type, parts]
    refine accounts_ok ?_ _
    rintro ⟨_, ⟨⟩⟩
    exact h rfl rfl

theorem accounts_params : ∀ ps : List (Slot CType), c.Accounts (paramParts ps) (c.params ps)
  | [] => by
    rw [params, paramParts]
    exact List.forall_mem_nil _
  | ⟨name, t⟩ :: rest => by
    rw [paramParts]
    by_cases ht : t = .variadic
    · subst ht
      rw [parts]
      cases rest with
      | nil =>
        rw [params, paramParts]
        refine accounts_ok ?_ _
        rintro ⟨_, ⟨⟩⟩
      | cons next rest =>
        rw [params]
        exact ⟨[], _, _, rfl, List.forall_mem_nil _, .misplaced⟩
    · rw [params_cons_of_ne ht]
      refine (accounts_type t (.param rest.isEmpty) fun h => absurd h ht).bind fun first => ?_
      exact (accounts_params rest).bind_ok fun others =>
        ⟨(⟨name, first⟩ :: others.1, others.2), rfl⟩

end

/-- **A conversion fails exactly for a cause, and for the first one.**

The parts of a type are listed in the order in which they are converted. A type is converted if none
of them is at fault. Otherwise the conversion fails for the cause of the first part that is at
fault, which names the builtin, the reference or the length as it is written there. -/
theorem type_fails_for_first (c : Converter) (asParam : Bool) (t : CType) :
    ((∃ type, c.type asParam t = .ok type) ↔
      ∀ part ∈ t.parts (.outermost asParam), ¬ c.Faulty part) ∧
    ∀ cause, c.type asParam t = .error cause ↔
      ∃ front part back, t.parts (.outermost asParam) = front ++ part :: back ∧
        (∀ earlier ∈ front, ¬ c.Faulty earlier) ∧ c.Blames part cause := by
  have hlast : Position.outermost asParam ≠ .param false := by cases asParam <;> nofun
  have hparam : (Position.outermost asParam).isParam = asParam := by cases asParam <;> rfl
  have haccounts : c.Accounts (t.parts (.outermost asParam)) (c.type asParam t) := by
    have hposition := accounts_type (c := c) t (.outermost asParam) fun _ => hlast
    rw [hparam] at hposition
    exact hposition
  exact ⟨haccounts.exists_ok_iff, fun cause => haccounts.eq_error_iff⟩

/-- The cause is the element of the first parameter: not the length of that array, which decays, nor
the `...` in front of another parameter, nor the result. -/
example : (⟨.ofLists ["x_"] [], ∅⟩ : Converter).type false
    (.func ⟨[⟨none, .array (.named { name := "x_gone" }) none⟩, ⟨none, .variadic⟩,
      ⟨none, .builtin .int⟩], false, .named { name := "lost" }⟩) =
    .error (.unresolvedAlias "x_gone") := rfl

end Converter

end HeaderBindings
