import HeaderBindings.Proofs.Session.Growth
import HeaderBindings.Proofs.Session.ShownTypes

/-!
# Every name that is referred to is registered

The registry only grows: the one name that is ever removed, that of a record whose fields cannot be
converted, was put there for this record alone, and nothing that was converted meanwhile is kept. So
what is registered or bound refers to names that are registered then and stay so.
-/

namespace HeaderBindings

/-- A name occurs in what a binding shows of types, at any depth. -/
def Binding.Mentions (n : String) : Binding → Prop
  | .function b => (TargetType.func b.signature).Mentions n
  | .type b => b.underlying.Mentions n
  | .const b => b.type.Mentions n

/-- Registered types and bindings only refer to registered names. -/
structure NoDangling (types : Registry) (package : Package) : Prop where
  registered : ∀ {name declared n}, types.get? name = some declared →
    declared.underlying.Mentions n → n ∈ types
  bound : ∀ {b n}, b ∈ package.bindings → b.Mentions n → n ∈ types

theorem NoDangling.start : NoDangling ∅ {} where
  registered h := nomatch h
  bound h := nomatch h

namespace Session

variable {s t : Session} {p : Place} {d : Decl}

/-! ### Visits and runs -/

theorem noDangling_iff :
    NoDangling s.types s.package ↔
      ∀ type, s.Shows type → ∀ n, type.Mentions n → n ∈ s.types := by
  constructor
  · intro h type hshows n hmentions
    cases hshows with
    | registered hget => exact h.registered hget hmentions
    | @bound b hb =>
      refine h.bound hb ?_
      cases b <;> exact hmentions
  · intro h
    constructor
    · exact fun hget hmentions => h _ (.registered hget) _ hmentions
    · intro b n hb hmentions
      refine h b.shown (.bound hb) n ?_
      cases b <;> exact hmentions

/-- The names in what a declaration gives were registered before, or the record itself is now. -/
theorem Gives.mem_types {type : TargetType} {n : String} (h : Gives s t type)
    (hmore : ∀ name ∈ s.types, name ∈ t.types) (hmentions : type.Mentions n) : n ∈ t.types := by
  cases h with
  | signature hok => exact hmore n (Converter.mem_of_signature_mentions hok hmentions)
  | type hok => exact hmore n (Converter.mem_of_type_mentions hok hmentions)
  | @record target _ _ _ hok htarget =>
    -- the fields were converted while the name of the record was registered
    have hopened : n ∈ (s.openRecord target).types :=
      Converter.mem_of_record_mentions hok hmentions
    rcases Registry.mem_register.1 hopened with rfl | hopened
    · exact htarget
    · exact hmore n hopened
  | enum => cases hmentions

/-- **No outcome of a visit leaves a name dangling.** -/
theorem Outcome.noDangling (houtcome : Outcome s p d t) (h : NoDangling s.types s.package) :
    NoDangling t.types t.package := by
  rw [noDangling_iff] at h ⊢
  intro type hshows n hmentions
  rcases houtcome.shows hshows with hshows | hgives
  · exact houtcome.mem_types (h type hshows n hmentions)
  · exact hgives.mem_types (fun name hname => houtcome.mem_types hname) hmentions

theorem noDangling_processAll (options : SessionOptions) (units : List HeaderUnit) :
    NoDangling ((start options).processAll units).types
      ((start options).processAll units).package :=
  processAll_preserves (s := start options) (motive := fun s => NoDangling s.types s.package)
    (fun s p d h => (outcome_visit s p d).noDangling h) NoDangling.start units

/-- **Whatever is run, every name that occurs at any depth in a registered type, in the signature of
a bound function or in a bound type is registered.** -/
theorem mentioned_names_registered (options : SessionOptions) (units : List HeaderUnit) :
    (∀ name declared n,
      ((start options).processAll units).types.get? name = some declared →
      declared.underlying.Mentions n → n ∈ ((start options).processAll units).types) ∧
    (∀ b n, .function b ∈ ((start options).processAll units).package.bindings →
      (TargetType.func b.signature).Mentions n → n ∈ ((start options).processAll units).types) ∧
    (∀ b n, .type b ∈ ((start options).processAll units).package.bindings →
      b.underlying.Mentions n → n ∈ ((start options).processAll units).types) := by
  have h := noDangling_processAll options units
  refine ⟨fun _ _ _ => h.registered, ?_, ?_⟩
  · intro b n hb hmentions
    exact h.bound hb hmentions
  · intro b n hb hmentions
    exact h.bound hb hmentions

end Session

end HeaderBindings
