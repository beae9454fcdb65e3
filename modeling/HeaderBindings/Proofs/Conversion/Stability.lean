import HeaderBindings.Proofs.Conversion.Unions
import HeaderBindings.Proofs.Conversion.Weakening

/-!
# Conversions in a growing registry

A registry grows while a run goes on: types are added in front of and behind those that are there,
and the underlying types of the old names stay. References resolve to names, whatever is registered
under them, but a union is measured, and its size depends on the types under all names that it
contains by value, at any depth. If the old types refer to old names only (`Registry.Closed`), none
of the new ones is ever looked at, so every size stays the same
(`Registry.GrowsInto.sizeOf_eq`), and so does everything that could be converted before
(`Converter.conversion_stable`).
-/

namespace HeaderBindings

namespace Registry

/-- All names of a registry are registered in another one, with the same underlying types. -/
def GrowsInto (r r' : Registry) : Prop :=
  ∀ name declared, r.get? name = some declared →
    ∃ declared', r'.get? name = some declared' ∧ declared'.underlying = declared.underlying

/-- The types of a registry refer to registered names only. -/
def Closed (r : Registry) : Prop :=
  ∀ name declared, r.get? name = some declared → ∀ n, declared.underlying.Mentions n → n ∈ r

variable {r r' : Registry}

theorem GrowsInto.mem (h : r.GrowsInto r') {name : String} (hmem : name ∈ r) : name ∈ r' := by
  obtain ⟨declared, hget⟩ := OrderedMap.exists_get?_of_mem hmem
  obtain ⟨declared', hget', -⟩ := h name declared hget
  exact OrderedMap.mem_of_get? hget'

theorem GrowsInto.size_le (h : r.GrowsInto r') : r.size ≤ r'.size := by
  have hsubset : r.keys ⊆ r'.keys := fun _ => h.mem
  have hle := (r.nodup_keys.subperm hsubset).length_le
  rw [OrderedMap.keys, List.length_map, List.length_map] at hle
  exact hle

/-- A layout that is found without new names is found again, by induction on how deep names are
followed. -/
theorem GrowsInto.nameLayout?_eq_some (h : r.GrowsInto r') (hclosed : r.Closed) {depth : Nat}
    {name : String} {layout : Layout} (hmem : name ∈ r)
    (hlayout : r.nameLayout? depth name = some layout) :
    r'.nameLayout? depth name = some layout := by
  induction depth generalizing name layout with
  | zero =>
    obtain ⟨declared, hget⟩ := OrderedMap.exists_get?_of_mem hmem
    rw [nameLayout?, hget] at hlayout
    cases hlayout
  | succ depth ih =>
    obtain ⟨declared, hget⟩ := OrderedMap.exists_get?_of_mem hmem
    obtain ⟨declared', hget', hsame⟩ := h name declared hget
    rw [nameLayout?_succ hget] at hlayout
    rw [nameLayout?_succ hget', hsame, ← hlayout]
    apply TargetType.layout?_congr
    intro n hn
    have hn' : n ∈ r := hclosed name declared hget n (TargetType.mentions_of_mem_byValue _ hn)
    have hsome : (r.nameLayout? depth n).isSome := by
      refine TargetType.isSome_layout?_iff _ |>.1 ?_ n hn
      rw [hlayout]
      rfl
    obtain ⟨own, hown⟩ := Option.isSome_iff_exists.1 hsome
    rw [hown, ih hn' hown]

/-- **A type whose names are old keeps its layout**, where measuring ended before. -/
theorem GrowsInto.layout?_eq (h : r.GrowsInto r') (hclosed : r.Closed)
    (hends : WellFounded r.MeasuredFor) {type : TargetType}
    (hnames : ∀ n, type.Mentions n → n ∈ r) : r'.layout? type = r.layout? type := by
  apply TargetType.layout?_congr
  intro n hn
  obtain ⟨own, hown⟩ := exists_nameLayout?_of_acc (hends.apply (.named n))
  have hmem : n ∈ r := hnames n (TargetType.mentions_of_mem_byValue type hn)
  have hown' : r'.nameLayout? r.size n = some own := h.nameLayout?_eq_some hclosed hmem hown
  -- the second registry follows names deeper, which makes no difference
  rw [nameLayout?_of_le h.size_le hown', hown]

theorem GrowsInto.sizeOf_eq (h : r.GrowsInto r') (hclosed : r.Closed)
    (hends : WellFounded r.MeasuredFor) {type : TargetType}
    (hnames : ∀ n, type.Mentions n → n ∈ r) : r'.sizeOf type = r.sizeOf type := by
  rw [sizeOf, sizeOf, layout, layout, h.layout?_eq hclosed hends hnames]

end Registry

namespace Converter

variable {r r' : Registry}

theorem knownBy_of_growsInto (rules : PrefixRules) (h : r.GrowsInto r') :
    KnownBy ⟨rules, r⟩ ⟨rules, r'⟩ :=
  ⟨rfl, fun _ => h.mem⟩

/-- A record that could be converted keeps its fields, since all that is measured for it has the
size that it had. -/
theorem record_of_growsInto (rules : PrefixRules) (h : r.GrowsInto r') (hclosed : r.Closed)
    (hends : WellFounded r.MeasuredFor) {tag : Tag} {body : List (Slot CType)}
    {fields : List (Slot TargetType)}
    (hok : (⟨rules, r⟩ : Converter).record tag body = .ok fields) :
    (⟨rules, r'⟩ : Converter).record tag body = .ok fields := by
  obtain ⟨fields', hok'⟩ := exists_record_of_knownBy (knownBy_of_growsInto rules h) hok
  have hsizes : ∀ type : TargetType, (∀ name, type.Mentions name → name ∈ r ∧ name ∈ r') →
      r.sizeOf type = r'.sizeOf type :=
    fun type hnames => (h.sizeOf_eq hclosed hends fun n hn => (hnames n hn).1).symm
  have hrules : (⟨rules, r'⟩ : Converter).rules = (⟨rules, r⟩ : Converter).rules := rfl
  rw [record_unique hrules hsizes hok hok']
  exact hok'

/-- **What can be converted stays the same when the registry grows.**

Let all names of a registry be registered in a second one with the same underlying types, let its
types refer to its own names only, and let measuring end in it. Then every type, signature and
record that is converted under the first registry is converted to the same result under the second
one, whatever else is registered there. -/
theorem conversion_stable (rules : PrefixRules) (h : r.GrowsInto r') (hclosed : r.Closed)
    (hends : WellFounded r.MeasuredFor) :
    (∀ asParam t result, (⟨rules, r⟩ : Converter).type asParam t = .ok result →
      (⟨rules, r'⟩ : Converter).type asParam t = .ok result) ∧
    (∀ f result, (⟨rules, r⟩ : Converter).signature f = .ok result →
      (⟨rules, r'⟩ : Converter).signature f = .ok result) ∧
    ∀ tag body result, (⟨rules, r⟩ : Converter).record tag body = .ok result →
      (⟨rules, r'⟩ : Converter).record tag body = .ok result := by
  have hknown := knownBy_of_growsInto rules h
  refine ⟨?_, ?_, ?_⟩
  · exact fun _ _ _ hok => type_of_knownBy hknown hok
  · exact fun _ _ hok => signature_of_knownBy hknown hok
  · exact fun _ _ _ hok => record_of_growsInto rules h hclosed hends hok

/-- The registry of one struct of 12 bytes, with a type in front of it and one behind it that
contains it. -/
def skeletonTypes : Registry :=
  (((∅ : Registry).register "Tag" ⟨.enum, Catalog.enumType⟩).register "Vec3"
    ⟨.struct, Registry.vec3⟩).register "Bone" ⟨.struct, Registry.bone⟩

/-- A union of the struct and a pointer. -/
def joint : List (Slot CType) :=
  [⟨some "at", .named { name := "Vec3" }⟩, ⟨some "next", .pointer (.builtin .char)⟩]

/-- The struct is larger than the pointer behind it, in both registries. -/
theorem conversion_stable_joint :
    Registry.boneTypes.GrowsInto skeletonTypes ∧ Registry.boneTypes.Closed ∧
    WellFounded Registry.boneTypes.MeasuredFor ∧
    (⟨.ofLists [] [], Registry.boneTypes⟩ : Converter).record .union joint =
      .ok [⟨some "at", .named "Vec3"⟩] ∧
    (⟨.ofLists [] [], skeletonTypes⟩ : Converter).record .union joint =
      .ok [⟨some "at", .named "Vec3"⟩] := by
  have hget : ∀ name declared, Registry.boneTypes.get? name = some declared →
      name = "Vec3" ∧ declared = ⟨.struct, Registry.vec3⟩ := by
    intro name declared h
    rw [Registry.boneTypes, Registry.get?_register] at h
    split at h
    · next hnew =>
      cases h
      exact ⟨hnew.1, rfl⟩
    · cases h
  have hgrows : Registry.boneTypes.GrowsInto skeletonTypes := by
    intro name declared h
    obtain ⟨rfl, rfl⟩ := hget name declared h
    exact ⟨⟨.struct, Registry.vec3⟩, rfl, rfl⟩
  have hclosed : Registry.boneTypes.Closed := by
    intro name declared h n hn
    obtain ⟨rfl, rfl⟩ := hget name declared h
    -- the struct holds floats only
    cases hn with
    | field hslot hn =>
      rw [List.mem_singleton.1 hslot] at hn
      cases hn with
      | array hn => cases hn
  have hends := Registry.wellFounded_boneTypes
  have hold : (⟨.ofLists [] [], Registry.boneTypes⟩ : Converter).record .union joint =
      .ok [⟨some "at", .named "Vec3"⟩] := rfl
  exact ⟨hgrows, hclosed, hends, hold,
    (conversion_stable _ hgrows hclosed hends).2.2 .union joint _ hold⟩

/-- A registry with a type that refers to a name before it is registered. -/
def looseTypes : Registry := (∅ : Registry).register "Limb" ⟨.alias, .named "Vec3"⟩

/-- Without closedness a union may keep another field: a name that is not registered counts as a
pointer, until it is registered. -/
example :
    (⟨.ofLists [] [], looseTypes⟩ : Converter).record .union
      [⟨some "limb", .named { name := "Limb" }⟩, ⟨some "next", .pointer (.builtin .char)⟩] =
      .ok [⟨some "next", .pointer (.scalar .char)⟩] ∧
    (⟨.ofLists [] [], looseTypes.register "Vec3" ⟨.struct, Registry.vec3⟩⟩ : Converter).record
      .union [⟨some "limb", .named { name := "Limb" }⟩, ⟨some "next", .pointer (.builtin .char)⟩] =
      .ok [⟨some "limb", .named "Limb"⟩] :=
  ⟨rfl, rfl⟩

end Converter

end HeaderBindings
