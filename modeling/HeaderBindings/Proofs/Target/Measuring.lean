import HeaderBindings.Proofs.Conversion.References
import HeaderBindings.Registry
import Mathlib.Data.List.Nodup
import Mathlib.Data.List.Perm.Subperm
import Mathlib.Order.WellFounded

/-!
# Measuring types ends

To measure a type is to measure its elements and fields, and for a name the type that is registered
under it. Nothing in a type bounds this, since names lead anywhere in the registry; what does is the
order of the registry. If every type contains by value only names that are registered before it
(`Registry.Layered`), the names that are followed inside one another come from earlier and earlier
places (`Registry.Layered.wellFounded`).

Wherever measuring ends, names that are followed inside one another are distinct. So the depth that
`Registry.layout?` allows is enough for all of them, and a type without a layout is one whose
measuring goes on forever (`Registry.isSome_layout?_iff_acc`). The depth is no part of what a layout
is: if all types can be measured, their layouts are the same at every greater depth
(`Registry.exists_layout?_of_wellFounded`), and a name has the layout of the type that is registered
under it (`Registry.layout?_named_of_wellFounded`).

Two descriptions of the same process are compared. `MeasuredFor` is a relation between types, with a
step for each element, field and registered name, and it says nothing about how far it goes.
`nameLayout?` is a recursion over a depth and gives up when the depth is used up. In a layered
registry the depth is never used up, since each name that is followed stands in front of the last
one. And in any registry the two descriptions fail together: a name that is followed inside itself
has no layout at any depth, and measuring it goes around without end.
-/

namespace HeaderBindings

namespace TargetType

/-! ### Names that are contained by value

A pointer has the size of a pointer, whatever it points to, and so has a function. So only names
outside of both are followed. Induction on the way to such a name (`byValue_ind`) replaces a
recursion over the whole type.
-/

mutual

/-- The names that a type contains by value: those that occur in it outside pointers and
functions. -/
def byValue : TargetType → List String
  | named name => [name]
  | array elem _ => byValue elem
  | struct fields => byValues fields
  | void | scalar _ | opaquePointer | pointer _ | func _ | varArgs => []

/-- The names that some fields contain by value. -/
def byValues : List (Slot TargetType) → List String
  | [] => []
  | ⟨_, type⟩ :: rest => byValue type ++ byValues rest

end

/-- A name is contained by some fields if it is by one of them. -/
theorem mem_byValues_iff {n : String} {fields : List (Slot TargetType)} :
    n ∈ byValues fields ↔ ∃ slot ∈ fields, n ∈ slot.type.byValue := by
  induction fields with
  | nil => simp [byValues]
  | cons slot rest ih =>
    rw [byValues, List.mem_append, ih]
    simp

mutual

/-- Induction on the way to a name that is contained by value: what holds of the name, and of the
arrays and structs around it, holds of the whole type. -/
theorem byValue_ind {n : String} {motive : TargetType → Prop} (named : motive (.named n))
    (array : ∀ elem length, motive elem → motive (.array elem length))
    (field : ∀ slot fields, slot ∈ fields → motive slot.type → motive (.struct fields)) :
    ∀ type : TargetType, n ∈ type.byValue → motive type
  | .named name, h => by
    rw [byValue, List.mem_singleton] at h
    rw [← h]
    exact named
  | .array elem length, h => by
    rw [byValue] at h
    exact array elem length (byValue_ind named array field elem h)
  | .struct fields, h => by
    rw [byValue] at h
    obtain ⟨slot, hslot, hmotive⟩ := byValues_ind named array field fields h
    exact field slot fields hslot hmotive
  | .void, h | .scalar _, h | .opaquePointer, h | .pointer _, h | .func _, h | .varArgs, h => by
    rw [byValue] at h
    cases h

theorem byValues_ind {n : String} {motive : TargetType → Prop} (named : motive (.named n))
    (array : ∀ elem length, motive elem → motive (.array elem length))
    (field : ∀ slot fields, slot ∈ fields → motive slot.type → motive (.struct fields)) :
    ∀ fields : List (Slot TargetType), n ∈ byValues fields → ∃ slot ∈ fields, motive slot.type
  | [], h => by
    rw [byValues] at h
    cases h
  | ⟨name, type⟩ :: rest, h => by
    rw [byValues] at h
    rcases List.mem_append.1 h with h | h
    · exact ⟨⟨name, type⟩, List.mem_cons_self, byValue_ind named array field type h⟩
    · obtain ⟨slot, hslot, hmotive⟩ := byValues_ind named array field rest h
      exact ⟨slot, List.mem_cons_of_mem _ hslot, hmotive⟩

end

/-- A name that a type contains by value is mentioned in it. -/
theorem mentions_of_mem_byValue {n : String} (type : TargetType) (h : n ∈ type.byValue) :
    type.Mentions n :=
  byValue_ind .named (fun _ _ => .array) (fun _ _ => .field) type h

/-! ### Layouts depend on names that are contained by value

A layout is computed from the layouts of names, which are given by a function here. Nothing is
assumed of that function, so the lemmas apply at every depth.
-/

variable {f g : String → Option Layout}

mutual

/-- A type has a layout exactly if all names have one that it contains by value. -/
theorem isSome_layout?_iff : ∀ type : TargetType,
    (type.layout? f).isSome ↔ ∀ n ∈ type.byValue, (f n).isSome
  | .named name => by
    rw [layout?, byValue]
    simp
  | .array elem length => by
    rw [layout?, byValue, Option.isSome_map]
    exact isSome_layout?_iff elem
  | .struct fields => by
    rw [layout?, byValue, Option.isSome_map]
    exact isSome_layouts?_iff fields
  | .void | .scalar _ | .opaquePointer | .pointer _ | .func _ | .varArgs => by
    rw [layout?, byValue]
    simp

theorem isSome_layouts?_iff : ∀ fields : List (Slot TargetType),
    (layouts? f fields).isSome ↔ ∀ n ∈ byValues fields, (f n).isSome
  | [] => by
    rw [layouts?, byValues]
    simp
  | ⟨name, type⟩ :: rest => by
    rw [layouts?, byValues, List.forall_mem_append, ← isSome_layout?_iff type,
      ← isSome_layouts?_iff rest]
    cases type.layout? f <;> cases layouts? f rest <;> simp

end

mutual

/-- The layout of a type depends only on those of the names that it contains by value. -/
theorem layout?_congr : ∀ type : TargetType,
    (∀ n ∈ type.byValue, f n = g n) → type.layout? f = type.layout? g
  | .named name, h => by
    rw [layout?, layout?]
    exact h name (by simp [byValue])
  | .array elem length, h => by
    rw [byValue] at h
    rw [layout?, layout?, layout?_congr elem h]
  | .struct fields, h => by
    rw [byValue] at h
    rw [layout?, layout?, layouts?_congr fields h]
  | .void, _ | .scalar _, _ | .opaquePointer, _ | .pointer _, _ | .func _, _ | .varArgs, _ => by
    rw [layout?, layout?]

theorem layouts?_congr : ∀ fields : List (Slot TargetType),
    (∀ n ∈ byValues fields, f n = g n) → layouts? f fields = layouts? g fields
  | [], _ => by rw [layouts?, layouts?]
  | ⟨name, type⟩ :: rest, h => by
    rw [byValues] at h
    have hfirst := layout?_congr type fun n hn => h n (List.mem_append_left _ hn)
    have hothers := layouts?_congr rest fun n hn => h n (List.mem_append_right _ hn)
    rw [layouts?, layouts?, hfirst, hothers]

end

/-- A type without a layout contains a name without one. -/
theorem exists_of_layout?_eq_none {type : TargetType} (h : type.layout? f = none) :
    ∃ n ∈ type.byValue, f n = none := by
  rw [← Option.not_isSome_iff_eq_none, isSome_layout?_iff] at h
  push Not at h
  obtain ⟨n, hn, hnone⟩ := h
  exact ⟨n, hn, Option.not_isSome_iff_eq_none.1 hnone⟩

/-- A layout stays the same when more names have one. -/
theorem layout?_mono {type : TargetType} {layout : Layout}
    (hfg : ∀ n own, f n = some own → g n = some own) (h : type.layout? f = some layout) :
    type.layout? g = some layout := by
  have hsome : ∀ n ∈ type.byValue, (f n).isSome := by
    rw [← isSome_layout?_iff, h]
    rfl
  rw [← h]
  apply layout?_congr
  intro n hn
  obtain ⟨own, hown⟩ := Option.isSome_iff_exists.1 (hsome n hn)
  rw [hown, hfg n own hown]

end TargetType

namespace Registry

open Relation

variable {r : Registry}

/-! ### Registries in order

The order of a registry is that of registration, and the place of an entry never changes, since
types are registered behind all others. So a layered registry stays layered under a registration
that looks back only.
-/

/-- Every type contains by value only names that are registered before it. -/
def Layered (r : Registry) : Prop :=
  ∀ (i : Nat) (name : String) (declared : DeclaredType), r.entries[i]? = some (name, declared) →
    ∀ n ∈ declared.underlying.byValue, ∃ j < i, r.keys[j]? = some n

/-- A registered name has a place in the registry. -/
theorem exists_getElem?_of_get? {name : String} {declared : DeclaredType}
    (h : r.get? name = some declared) : ∃ i : Nat, r.entries[i]? = some (name, declared) :=
  List.mem_iff_getElem?.1 (OrderedMap.mem_entries_iff.2 h)

/-- What stands at some place is registered under its name. -/
theorem get?_of_getElem? {i : Nat} {name : String} {declared : DeclaredType}
    (h : r.entries[i]? = some (name, declared)) : r.get? name = some declared :=
  OrderedMap.mem_entries_iff.1 (List.mem_of_getElem? h)

theorem exists_getElem?_of_keys {i : Nat} {name : String} (h : r.keys[i]? = some name) :
    ∃ declared, r.entries[i]? = some (name, declared) := by
  rw [OrderedMap.keys, List.getElem?_map] at h
  obtain ⟨⟨_, declared⟩, he, rfl⟩ := Option.map_eq_some_iff.1 h
  exact ⟨declared, he⟩

/-- An entry of a registry with one more type was there before, or it is the new one, behind all
others. -/
theorem getElem?_entries_register {name other : String} {declared found : DeclaredType} {i : Nat}
    (h : (r.register name declared).entries[i]? = some (other, found)) :
    r.entries[i]? = some (other, found) ∨
      (i = r.entries.length ∧ other = name ∧ found = declared) := by
  by_cases hmem : name ∈ r
  · rw [Registry.register, if_pos hmem] at h
    exact .inl h
  · rw [register_of_not_mem hmem, OrderedMap.entries_insert_of_not_mem hmem] at h
    rcases Nat.lt_trichotomy i r.entries.length with hi | hi | hi
    · rw [List.getElem?_append_left hi] at h
      exact .inl h
    · rw [hi, List.getElem?_concat_length] at h
      cases h
      exact .inr ⟨hi, rfl, rfl⟩
    · have hnone : (r.entries ++ [(name, declared)])[i]? = none := by
        apply List.getElem?_eq_none
        rw [List.length_append, List.length_singleton]
        omega
      rw [hnone] at h
      cases h

/-- A name that is registered keeps its place. -/
theorem getElem?_keys_register {other : String} {j : Nat} (h : r.keys[j]? = some other)
    (name : String) (declared : DeclaredType) :
    (r.register name declared).keys[j]? = some other := by
  by_cases hmem : name ∈ r
  · rw [Registry.register, if_pos hmem]
    exact h
  · have hlt := (List.getElem?_eq_some_iff.1 h).1
    rw [register_of_not_mem hmem, OrderedMap.keys_insert, if_neg hmem,
      List.getElem?_append_left hlt, h]

theorem exists_lt_of_mem {name : String} (h : name ∈ r) :
    ∃ j < r.entries.length, r.keys[j]? = some name := by
  obtain ⟨j, hj⟩ := List.mem_iff_getElem?.1 h
  have hlt := (List.getElem?_eq_some_iff.1 hj).1
  rw [OrderedMap.keys, List.length_map] at hlt
  exact ⟨j, hlt, hj⟩

/-- A type may be registered if the names that it contains by value are registered. -/
theorem Layered.register (h : r.Layered) {name : String} {declared : DeclaredType}
    (hdeclared : ∀ n ∈ declared.underlying.byValue, n ∈ r) :
    (r.register name declared).Layered := by
  intro i other found hfound n hn
  have hearlier : ∃ j < i, r.keys[j]? = some n := by
    rcases getElem?_entries_register hfound with hfound | ⟨rfl, -, rfl⟩
    · exact h i other found hfound n hn
    · exact exists_lt_of_mem (hdeclared n hn)
  obtain ⟨j, hj, hkey⟩ := hearlier
  exact ⟨j, hj, getElem?_keys_register hkey name declared⟩

/-! ### What is measured for a type

The relation goes from parts to the whole, so that a type at which measuring ends is an accessible
one (`Acc`). The names that it contains by value decide: between them there are only elements and
fields, and these end with the type itself.
-/

/-- To measure the second type, the first one is measured. -/
inductive MeasuredFor (r : Registry) : TargetType → TargetType → Prop where
  | elem {elem : TargetType} {length : Nat} : MeasuredFor r elem (.array elem length)
  | field {slot : Slot TargetType} {fields : List (Slot TargetType)} :
    slot ∈ fields → MeasuredFor r slot.type (.struct fields)
  | named {name : String} {declared : DeclaredType} : r.get? name = some declared →
    MeasuredFor r declared.underlying (.named name)

mutual

/-- A type can be measured if all names can that it contains by value. -/
theorem acc_of_byValue : ∀ type : TargetType,
    (∀ n ∈ type.byValue, Acc r.MeasuredFor (.named n)) → Acc r.MeasuredFor type
  | .named name, h => h name (by simp [TargetType.byValue])
  | .array elem length, h => by
    rw [TargetType.byValue] at h
    constructor
    rintro _ ⟨⟩
    exact acc_of_byValue elem h
  | .struct fields, h => by
    rw [TargetType.byValue] at h
    constructor
    rintro _ ⟨⟩
    next slot hslot => exact acc_of_byValues fields h slot hslot
  | .void, _ | .scalar _, _ | .opaquePointer, _ | .pointer _, _ | .func _, _ | .varArgs, _ =>
    ⟨_, fun _ h => nomatch h⟩

theorem acc_of_byValues : ∀ fields : List (Slot TargetType),
    (∀ n ∈ TargetType.byValues fields, Acc r.MeasuredFor (.named n)) →
      ∀ slot ∈ fields, Acc r.MeasuredFor slot.type
  | [], _, _, hslot => nomatch hslot
  | ⟨name, type⟩ :: rest, h, slot, hslot => by
    rw [TargetType.byValues] at h
    rcases List.mem_cons.1 hslot with rfl | hslot
    · exact acc_of_byValue type fun n hn => h n (List.mem_append_left _ hn)
    · exact acc_of_byValues rest (fun n hn => h n (List.mem_append_right _ hn)) slot hslot

end

/-- If a type can be measured, so can all names that it contains by value. -/
theorem acc_of_mem_byValue {type : TargetType} (h : Acc r.MeasuredFor type) {n : String}
    (hn : n ∈ type.byValue) : Acc r.MeasuredFor (.named n) :=
  TargetType.byValue_ind
    (motive := fun type => Acc r.MeasuredFor type → Acc r.MeasuredFor (.named n))
    id (fun _ _ ih h => ih (h.inv .elem)) (fun _ _ hslot ih h => ih (h.inv (.field hslot)))
    type hn h

/-- A registered name can be measured, by induction on its place in the registry. -/
theorem Layered.acc_named (h : r.Layered) {i : Nat} {name : String} {declared : DeclaredType}
    (hi : r.entries[i]? = some (name, declared)) : Acc r.MeasuredFor (.named name) := by
  induction i using Nat.strongRecOn generalizing name declared with
  | ind i ih =>
    constructor
    rintro _ ⟨⟩
    next found hfound =>
      -- only the type that is registered under the name is measured for it
      cases (get?_of_getElem? hi).symm.trans hfound
      apply acc_of_byValue
      intro n hn
      obtain ⟨j, hj, hkey⟩ := h i name declared hi n hn
      obtain ⟨earlier, hearlier⟩ := exists_getElem?_of_keys hkey
      exact ih j hj hearlier

/-- **In a layered registry, measuring never goes on forever.** -/
theorem Layered.wellFounded (h : r.Layered) : WellFounded r.MeasuredFor := by
  constructor
  intro type
  apply acc_of_byValue
  intro n _
  cases hget : r.get? n with
  | none =>
    -- nothing else is measured for a name that is not registered
    constructor
    rintro _ ⟨⟩
    next found hfound => cases hget.symm.trans hfound
  | some declared =>
    obtain ⟨i, hi⟩ := exists_getElem?_of_get? hget
    exact h.acc_named hi

/-! ### Layouts

A name that is not registered counts as a word. A registered one has the layout of its type, in
which names are followed one level less deep.
-/

theorem nameLayout?_of_get?_eq_none {name : String} (h : r.get? name = none) (depth : Nat) :
    r.nameLayout? depth name = some .word := by
  unfold nameLayout?
  rw [h]

theorem nameLayout?_succ {name : String} {declared : DeclaredType}
    (h : r.get? name = some declared) (depth : Nat) :
    r.nameLayout? (depth + 1) name = declared.underlying.layout? (r.nameLayout? depth) := by
  rw [nameLayout?, h]

/-- **A type that contains itself by value has no layout**, however deep names are followed. -/
theorem nameLayout?_eq_none {name : String} {declared : DeclaredType}
    (hget : r.get? name = some declared) (hself : name ∈ declared.underlying.byValue)
    (depth : Nat) : r.nameLayout? depth name = none := by
  induction depth with
  | zero => rw [nameLayout?, hget]
  | succ depth ih =>
    rw [nameLayout?_succ hget, ← Option.not_isSome_iff_eq_none, TargetType.isSome_layout?_iff]
    intro hsome
    have hown := hsome name hself
    rw [ih] at hown
    cases hown

example : ((∅ : Registry).register "Node" ⟨.struct, .struct [⟨some "next", .named "Node"⟩]⟩).layout?
    (.array (.named "Node") 2) = none := by
  decide

/-! ### What is followed ends

A name without a layout at a depth is followed that deep, through names that are all registered.
Where measuring ends these names are distinct, and there are no more of them than entries. So at the
depth of the number of entries each name has a layout.
-/

/-- The names that a type contains by value are measured for it. -/
theorem reflTransGen_of_mem_byValue {n : String} (type : TargetType) (h : n ∈ type.byValue) :
    ReflTransGen r.MeasuredFor (.named n) type :=
  TargetType.byValue_ind .refl (fun _ _ helem => helem.tail .elem)
    (fun _ _ hslot htype => htype.tail (.field hslot)) type h

theorem exists_get?_of_nameLayout?_eq_none {depth : Nat} {name : String}
    (h : r.nameLayout? depth name = none) : ∃ declared, r.get? name = some declared := by
  cases hget : r.get? name with
  | none => cases h.symm.trans (nameLayout?_of_get?_eq_none hget depth)
  | some declared => exact ⟨declared, rfl⟩

/-- A name without a layout begins a chain of registered names, each of which is measured for the
one in front of it. The chain is longer than the depth to which names are followed. -/
theorem exists_chain_of_nameLayout?_eq_none {depth : Nat} {name : String}
    (h : r.nameLayout? depth name = none) :
    ∃ inner : List String, inner.length = depth ∧ (∀ n ∈ name :: inner, n ∈ r) ∧
      (name :: inner).IsChain fun m n => TransGen r.MeasuredFor (.named n) (.named m) := by
  obtain ⟨declared, hget⟩ := exists_get?_of_nameLayout?_eq_none h
  induction depth generalizing name declared with
  | zero =>
    refine ⟨[], rfl, ?_, .singleton name⟩
    intro n hn
    rw [List.mem_singleton.1 hn]
    exact OrderedMap.mem_of_get? hget
  | succ depth ih =>
    rw [nameLayout?_succ hget] at h
    obtain ⟨n, hn, hnone⟩ := TargetType.exists_of_layout?_eq_none h
    obtain ⟨found, hfound⟩ := exists_get?_of_nameLayout?_eq_none hnone
    obtain ⟨inner, hlength, hall, hchain⟩ := ih hnone found hfound
    refine ⟨n :: inner, congrArg Nat.succ hlength, ?_, .cons_cons ?_ hchain⟩
    · exact List.forall_mem_cons.2 ⟨OrderedMap.mem_of_get? hget, hall⟩
    · exact .tail' (reflTransGen_of_mem_byValue _ hn) (.named hget)

/-- A type that can be measured is not measured for itself. -/
theorem not_transGen_self {type : TargetType} (h : Acc (TransGen r.MeasuredFor) type) :
    ¬ TransGen r.MeasuredFor type type := by
  induction h with
  | intro type _ ih => exact fun hself => ih type hself hself

/-- Where measuring ends, the names of a chain are distinct, so that it is no longer than the
registry. -/
theorem exists_nameLayout?_of_acc {name : String} (h : Acc r.MeasuredFor (.named name)) :
    ∃ layout, r.nameLayout? r.size name = some layout := by
  rw [← Option.isSome_iff_exists, ← Option.ne_none_iff_isSome]
  intro hnone
  obtain ⟨inner, hlength, hall, hchain⟩ := exists_chain_of_nameLayout?_eq_none hnone
  have htrans : IsTrans String fun m n => TransGen r.MeasuredFor (.named n) (.named m) :=
    ⟨fun _ _ _ hmn hno => hno.trans hmn⟩
  have hpairs := List.isChain_iff_pairwise.1 hchain
  -- measuring ends for the first name, and so for those that are measured for it
  have hacc : ∀ n ∈ name :: inner, Acc (TransGen r.MeasuredFor) (.named n) :=
    List.forall_mem_cons.2
      ⟨h.transGen, fun n hn => h.transGen.inv ((List.pairwise_cons.1 hpairs).1 n hn)⟩
  have hnodup : (name :: inner).Nodup := by
    refine hpairs.imp_of_mem ?_
    rintro m _ hmem _ hm rfl
    exact not_transGen_self (hacc m hmem) hm
  have hsubset : name :: inner ⊆ r.keys := hall
  have hle := (hnodup.subperm hsubset).length_le
  rw [List.length_cons, hlength, OrderedMap.keys, List.length_map] at hle
  exact Nat.not_succ_le_self _ hle

/-- A name with a layout is measured in as many steps as it takes to follow names so deep. -/
theorem acc_of_nameLayout? {depth : Nat} {name : String} {layout : Layout}
    (h : r.nameLayout? depth name = some layout) : Acc r.MeasuredFor (.named name) := by
  induction depth generalizing name layout with
  | zero =>
    constructor
    rintro _ ⟨⟩
    next declared hget =>
      rw [nameLayout?, hget] at h
      cases h
  | succ depth ih =>
    constructor
    rintro _ ⟨⟩
    next declared hget =>
      rw [nameLayout?_succ hget] at h
      have hsome : (declared.underlying.layout? (r.nameLayout? depth)).isSome := by
        rw [h]
        rfl
      refine acc_of_byValue _ fun n hn => ?_
      obtain ⟨own, hown⟩ :=
        Option.isSome_iff_exists.1 ((TargetType.isSome_layout?_iff _).1 hsome n hn)
      exact ih hown

/-- **A type has a layout exactly if measuring it ends.** -/
theorem isSome_layout?_iff_acc {type : TargetType} :
    (r.layout? type).isSome ↔ Acc r.MeasuredFor type := by
  rw [Registry.layout?, TargetType.isSome_layout?_iff]
  constructor
  · intro hsome
    refine acc_of_byValue type fun n hn => ?_
    obtain ⟨layout, hlayout⟩ := Option.isSome_iff_exists.1 (hsome n hn)
    exact acc_of_nameLayout? hlayout
  · intro hacc n hn
    exact Option.isSome_iff_exists.2 (exists_nameLayout?_of_acc (acc_of_mem_byValue hacc hn))

/-- A name that has a layout keeps it when names are followed deeper. -/
theorem nameLayout?_succ_of_eq_some {depth : Nat} {name : String} {layout : Layout}
    (h : r.nameLayout? depth name = some layout) :
    r.nameLayout? (depth + 1) name = some layout := by
  cases hget : r.get? name with
  | none =>
    rw [nameLayout?_of_get?_eq_none hget] at h ⊢
    exact h
  | some declared =>
    induction depth generalizing name layout declared with
    | zero =>
      rw [nameLayout?, hget] at h
      cases h
    | succ depth ih =>
      rw [nameLayout?_succ hget] at h ⊢
      refine TargetType.layout?_mono ?_ h
      intro n own hown
      cases hn : r.get? n with
      | none =>
        rw [nameLayout?_of_get?_eq_none hn] at hown ⊢
        exact hown
      | some found => exact ih hown found hn

/-- More depth does not change a layout. -/
theorem nameLayout?_of_le {depth depth' : Nat} (hdepth : depth ≤ depth') {name : String}
    {layout : Layout} (h : r.nameLayout? depth name = some layout) :
    r.nameLayout? depth' name = some layout := by
  induction hdepth with
  | refl => exact h
  | step _ ih => exact nameLayout?_succ_of_eq_some ih

/-- **Where measuring ends, every type has a layout**, and it is the same at every depth from the
number of entries on. -/
theorem exists_layout?_of_wellFounded (h : WellFounded r.MeasuredFor) (type : TargetType) :
    ∃ layout, ∀ depth, r.size ≤ depth → type.layout? (r.nameLayout? depth) = some layout := by
  have hsome : (type.layout? (r.nameLayout? r.size)).isSome :=
    isSome_layout?_iff_acc.2 (h.apply type)
  obtain ⟨layout, hlayout⟩ := Option.isSome_iff_exists.1 hsome
  refine ⟨layout, fun depth hdepth => ?_⟩
  exact TargetType.layout?_mono (fun _ _ hown => nameLayout?_of_le hdepth hown) hlayout

/-- **Where measuring ends, a name has the layout of the type that is registered under it.** -/
theorem layout?_named_of_wellFounded (h : WellFounded r.MeasuredFor) {name : String}
    {declared : DeclaredType} (hget : r.get? name = some declared) :
    r.layout? (.named name) = r.layout? declared.underlying := by
  obtain ⟨layout, hlayout⟩ := exists_layout?_of_wellFounded h (.named name)
  have hsucc := hlayout (r.size + 1) (Nat.le_succ _)
  rw [TargetType.layout?, nameLayout?_succ hget] at hsucc
  rw [Registry.layout?, Registry.layout?, hlayout r.size (Nat.le_refl _), hsucc]

/-- **In a layered registry, every type has a layout.** -/
theorem Layered.exists_layout? (h : r.Layered) (type : TargetType) :
    ∃ layout, ∀ depth, r.size ≤ depth → type.layout? (r.nameLayout? depth) = some layout :=
  exists_layout?_of_wellFounded h.wellFounded type

/-- In a layered registry, a name has the layout of the type that is registered under it. -/
theorem Layered.layout?_named (h : r.Layered) {name : String} {declared : DeclaredType}
    (hget : r.get? name = some declared) :
    r.layout? (.named name) = r.layout? declared.underlying :=
  layout?_named_of_wellFounded h.wellFounded hget

end Registry

end HeaderBindings
