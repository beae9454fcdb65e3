import HeaderBindings.OrderedMap
import HeaderBindings.Target.Layout

/-!
# The registry of declared types

The types declared so far, by target name and in the order of their declaration. References resolve
only to registered names, and named types are measured through the registry.

To measure a name is to measure the type that is registered under it, and this does not end if the
type contains the name by value. So a layout is optional (`Registry.layout?`): it is there exactly
if measuring ends.
-/

namespace HeaderBindings

inductive TypeKind where
  | struct | alias | enum
  deriving Repr, DecidableEq

/-- A declared type; its name is its key in the registry. -/
structure DeclaredType where
  kind : TypeKind
  underlying : TargetType
  deriving Repr

abbrev Registry := OrderedMap String DeclaredType

namespace Registry

/-- Registers a type unless its name is taken. -/
def register (r : Registry) (name : String) (type : DeclaredType) : Registry :=
  if name ∈ r then r else r.insert name type

/-- Replaces the underlying type of a registered name. -/
def update (r : Registry) (name : String) (underlying : TargetType) : Registry :=
  r.modify name fun t => { t with underlying }

theorem mem_register {r : Registry} {name other : String} {type : DeclaredType} :
    other ∈ r.register name type ↔ other = name ∨ other ∈ r := by
  unfold register
  split
  · next h =>
    constructor
    · exact Or.inr
    · rintro (rfl | h')
      · exact h
      · exact h'
  · exact OrderedMap.mem_insert

/-- A name that is known keeps its type when it is registered again. -/
theorem get?_register (r : Registry) (name other : String) (type : DeclaredType) :
    (r.register name type).get? other =
      if other = name ∧ name ∉ r then some type else r.get? other := by
  unfold register
  by_cases h : name ∈ r <;> simp [h, OrderedMap.get?_insert]

/-- A type whose name is free is added at the end. -/
theorem register_of_not_mem {r : Registry} {name : String} (h : name ∉ r) (type : DeclaredType) :
    r.register name type = r.insert name type :=
  if_neg h

/-- A type whose name is free may be registered before its underlying type is known. -/
theorem update_register {r : Registry} {name : String} (h : name ∉ r) (type : DeclaredType)
    (underlying : TargetType) :
    (r.register name type).update name underlying = r.register name { type with underlying } := by
  rw [register_of_not_mem h, register_of_not_mem h]
  exact OrderedMap.modify_insert_of_not_mem h type fun t => { t with underlying }

/-- A type whose name was free leaves no trace when it is removed again. -/
theorem erase_register {r : Registry} {name : String} (h : name ∉ r) (type : DeclaredType) :
    (r.register name type).erase name = r := by
  rw [register_of_not_mem h]
  exact OrderedMap.erase_insert_of_not_mem h type

/-- The layout of a named type, following at most `depth` names inside one another. -/
def nameLayout? (r : Registry) : Nat → String → Option Layout
  | depth, name =>
    match r.get? name with
    -- a name that is not registered counts as a pointer
    | none => some .word
    | some declared =>
      match depth with
      | 0 => none
      | depth + 1 => declared.underlying.layout? (r.nameLayout? depth)

/-- The layout of a type. It is absent only if the type contains a registered type that contains
itself: otherwise the names inside one another are distinct, so that no more of them are followed
than there are entries. -/
def layout? (r : Registry) (type : TargetType) : Option Layout :=
  type.layout? (r.nameLayout? r.size)

/-- The layout of a type that has one. To measure any other type never ends, so that nothing comes
of a conversion that needs its layout (`Converter.recordEnds`); the value here stands for none. -/
def layout (r : Registry) (type : TargetType) : Layout := (r.layout? type).getD ⟨0, 1⟩

def sizeOf (r : Registry) (type : TargetType) : Nat := (r.layout type).size

def alignOf (r : Registry) (type : TargetType) : Nat := (r.layout type).align

end Registry

end HeaderBindings
