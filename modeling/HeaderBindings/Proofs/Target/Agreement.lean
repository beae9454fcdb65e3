import HeaderBindings.Proofs.Target.Measuring

/-!
# Registries that agree measure alike

The size of a name depends on the types that are registered under it and, at any depth, under the
names that it contains by value. Two registries that hold the same types under the names they share
(`Registry.Agree`) give such a name the same size, whatever else is registered in either of them
(`Registry.Agree.sizeOf_eq`). Types that contain themselves by value are no exception: they have no
layout in either registry.

A registry that is built by a run need not be layered, because a record may contain itself by value.
It is so up to this exception (`SelfLayered`), and that is enough for sizes to be compared: a record
that contains itself has no layout, whatever else is registered, and every other name has one that
depends on earlier entries only.
-/

namespace HeaderBindings.Registry

variable {r r' : Registry}

/-! ### Types that may contain themselves

The induction is on places in the registry. What a type contains by value stands before it, apart
from itself, and a type that contains itself has no layout at any depth.
-/

/-- Every type contains by value only names that are registered before it, and perhaps its own. -/
def SelfLayered (r : Registry) : Prop :=
  ∀ (i : Nat) (name : String) (declared : DeclaredType), r.entries[i]? = some (name, declared) →
    ∀ n ∈ declared.underlying.byValue, n = name ∨ ∃ j < i, r.keys[j]? = some n

/-- A registry without types is in order. -/
theorem SelfLayered.empty : SelfLayered ∅ := fun _ _ _ h => nomatch h

/-- A type may be registered if the names that it contains by value are registered, or its own. -/
theorem SelfLayered.register (h : r.SelfLayered) {name : String} {declared : DeclaredType}
    (hdeclared : ∀ n ∈ declared.underlying.byValue, n = name ∨ n ∈ r) :
    (r.register name declared).SelfLayered := by
  intro i other found hfound n hn
  have hearlier : n = other ∨ ∃ j < i, r.keys[j]? = some n := by
    rcases getElem?_entries_register hfound with hfound | ⟨rfl, rfl, rfl⟩
    · exact h i other found hfound n hn
    · exact (hdeclared n hn).imp_right exists_lt_of_mem
  rcases hearlier with heq | ⟨j, hj, hkey⟩
  · exact .inl heq
  · exact .inr ⟨j, hj, getElem?_keys_register hkey name declared⟩

/-- What a registered type contains by value is registered. -/
theorem SelfLayered.mem_of_mem_byValue (h : r.SelfLayered) {name n : String}
    {declared : DeclaredType} (hget : r.get? name = some declared)
    (hn : n ∈ declared.underlying.byValue) : n ∈ r := by
  obtain ⟨i, hi⟩ := exists_getElem?_of_get? hget
  rcases h i name declared hi n hn with rfl | ⟨j, -, hkey⟩
  · exact OrderedMap.mem_of_get? hget
  · exact List.mem_of_getElem? hkey

/-- The layout of a name does not depend on how deep names are followed, from the place of the name
in the registry on. -/
theorem SelfLayered.nameLayout?_eq (h : r.SelfLayered) {i : Nat} {name : String}
    {declared : DeclaredType} (hi : r.entries[i]? = some (name, declared)) {depth depth' : Nat}
    (hdepth : i < depth) (hdepth' : i < depth') :
    r.nameLayout? depth name = r.nameLayout? depth' name := by
  induction i using Nat.strongRecOn generalizing name declared depth depth' with
  | ind i ih =>
    have hget := get?_of_getElem? hi
    by_cases hself : name ∈ declared.underlying.byValue
    · rw [nameLayout?_eq_none hget hself, nameLayout?_eq_none hget hself]
    · obtain ⟨depth, rfl⟩ := Nat.exists_eq_succ_of_ne_zero (Nat.ne_zero_of_lt hdepth)
      obtain ⟨depth', rfl⟩ := Nat.exists_eq_succ_of_ne_zero (Nat.ne_zero_of_lt hdepth')
      rw [nameLayout?_succ hget, nameLayout?_succ hget]
      apply TargetType.layout?_congr
      intro n hn
      rcases h i name declared hi n hn with rfl | ⟨j, hj, hkey⟩
      · exact absurd hn hself
      · obtain ⟨earlier, hearlier⟩ := exists_getElem?_of_keys hkey
        exact ih j hj hearlier (by omega) (by omega)

/-- **A name has the layout of the type that is registered under it.** -/
theorem SelfLayered.nameLayout?_size (h : r.SelfLayered) {name : String} {declared : DeclaredType}
    (hget : r.get? name = some declared) :
    r.nameLayout? r.size name = r.layout? declared.underlying := by
  obtain ⟨i, hi⟩ := exists_getElem?_of_get? hget
  have hlt : i < r.size := (List.getElem?_eq_some_iff.1 hi).1
  rw [h.nameLayout?_eq hi hlt (Nat.lt_succ_of_lt hlt), nameLayout?_succ hget]
  rfl

/-! ### Registries that agree

Agreement says nothing of names that only one of the registries has. So it is kept when either of
them grows, as long as no other type is registered under a shared name.
-/

/-- Two registries hold the same types under the names that they share. -/
def Agree (r r' : Registry) : Prop :=
  ∀ name declared declared', r.get? name = some declared → r'.get? name = some declared' →
    declared = declared'

/-- Registries that agree and have the same names hold the same types. -/
theorem Agree.get?_eq (h : r.Agree r') (hmem : ∀ name, name ∈ r ↔ name ∈ r') (name : String) :
    r.get? name = r'.get? name := by
  cases hget : r.get? name with
  | some declared =>
    obtain ⟨declared', hget'⟩ :=
      OrderedMap.exists_get?_of_mem ((hmem name).1 (OrderedMap.mem_of_get? hget))
    rw [hget', h name declared declared' hget hget']
  | none =>
    cases hget' : r'.get? name with
    | none => rfl
    | some declared =>
      obtain ⟨found, hfound⟩ :=
        OrderedMap.exists_get?_of_mem ((hmem name).2 (OrderedMap.mem_of_get? hget'))
      cases hget.symm.trans hfound

/-- Registering a type keeps the agreement with a registry that has no other type under its name. -/
theorem Agree.register (h : r.Agree r') {name : String} {declared : DeclaredType}
    (hdeclared : name ∉ r → ∀ declared', r'.get? name = some declared' → declared = declared') :
    (r.register name declared).Agree r' := by
  intro other found found' hfound hfound'
  rw [get?_register] at hfound
  split at hfound
  · next hnew =>
    obtain ⟨rfl, hfree⟩ := hnew
    cases hfound
    exact hdeclared hfree found' hfound'
  · exact h other found found' hfound hfound'

/-- The same type may be registered in both under a name that is free in both. -/
theorem Agree.register_both (h : r.Agree r') {name : String} (hfree : name ∉ r)
    (hfree' : name ∉ r') (declared : DeclaredType) :
    (r.register name declared).Agree (r'.register name declared) := by
  intro other found found' hfound hfound'
  rw [get?_register] at hfound hfound'
  by_cases heq : other = name
  · rw [if_pos ⟨heq, hfree⟩] at hfound
    rw [if_pos ⟨heq, hfree'⟩] at hfound'
    exact Option.some.inj (hfound.symm.trans hfound')
  · rw [if_neg fun hnew => heq hnew.1] at hfound hfound'
    exact h other found found' hfound hfound'

/-- By induction on the place of the name in the first registry: what it contains by value stands
before it, and is registered in both. -/
theorem Agree.nameLayout?_eq (h : r.Agree r') (hr : r.SelfLayered) (hr' : r'.SelfLayered)
    {i : Nat} {name : String} {declared : DeclaredType}
    (hi : r.entries[i]? = some (name, declared)) (hmem' : name ∈ r') :
    r.nameLayout? r.size name = r'.nameLayout? r'.size name := by
  induction i using Nat.strongRecOn generalizing name declared with
  | ind i ih =>
    have hget := get?_of_getElem? hi
    obtain ⟨declared', hget'⟩ := OrderedMap.exists_get?_of_mem hmem'
    obtain rfl := h name declared declared' hget hget'
    by_cases hself : name ∈ declared.underlying.byValue
    · rw [nameLayout?_eq_none hget hself, nameLayout?_eq_none hget' hself]
    · rw [hr.nameLayout?_size hget, hr'.nameLayout?_size hget']
      apply TargetType.layout?_congr
      intro n hn
      rcases hr i name declared hi n hn with rfl | ⟨j, hj, hkey⟩
      · exact absurd hn hself
      · obtain ⟨earlier, hearlier⟩ := exists_getElem?_of_keys hkey
        exact ih j hj hearlier (hr'.mem_of_mem_byValue hget' hn)

/-- **Registries that agree give a type the same size**, if both of them know its names. -/
theorem Agree.sizeOf_eq (h : r.Agree r') (hr : r.SelfLayered) (hr' : r'.SelfLayered)
    {type : TargetType} (hnames : ∀ name, type.Mentions name → name ∈ r ∧ name ∈ r') :
    r.sizeOf type = r'.sizeOf type := by
  have hlayout : r.layout? type = r'.layout? type := by
    apply TargetType.layout?_congr
    intro n hn
    obtain ⟨hmem, hmem'⟩ := hnames n (TargetType.mentions_of_mem_byValue type hn)
    obtain ⟨declared, hget⟩ := OrderedMap.exists_get?_of_mem hmem
    obtain ⟨i, hi⟩ := exists_getElem?_of_get? hget
    exact h.nameLayout?_eq hr hr' hi hmem'
  rw [sizeOf, sizeOf, layout, layout, hlayout]

end HeaderBindings.Registry
