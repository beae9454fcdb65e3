import HeaderBindings.Proofs.Session.Outcome
import HeaderBindings.Proofs.Session.Visits

/-!
# Where the types of a session come from

A session shows types in two places: under the registered names, and in the bindings of the package.
All of them were converted once, or are that of an enumeration (`Outcome.shows`): nothing is put
together from types that were there before. So what holds of all converted types holds of everything
that a run shows (`of_shows_processAll`).

This reduces a statement about runs to one about the converter. `Gives` lists what a converter is
asked for: the signature of a function, the type that a typedef stands for, the fields of a record
that is open, and the one type that all enumerators have. The conversion takes place in the session
before the visit, while what is shown is shown in the session behind it. For most types this makes
no difference; for records it does, because the record is registered by then, and its fields may
mention it. So `Gives` is told both sessions.
-/

namespace HeaderBindings

/-! ### Types in a registry and in a package

A type that is registered or bound is shown from then on, and each of the functions that change a
session adds at most one type in one of the two places.
-/

/-- What a binding shows of types. -/
def Binding.shown : Binding → TargetType
  | .function b => .func b.signature
  | .type b => b.underlying
  | .const b => b.type

/-- A type is registered, or a binding shows it. -/
inductive Shown (types : Registry) (package : Package) : TargetType → Prop where
  | registered {name declared} :
      types.get? name = some declared → Shown types package declared.underlying
  | bound {b} : b ∈ package.bindings → Shown types package b.shown

namespace Shown

variable {types : Registry} {package : Package} {type : TargetType}

theorem of_register {name : String} {declared : DeclaredType}
    (h : Shown (types.register name declared) package type) :
    Shown types package type ∨ type = declared.underlying := by
  cases h with
  | registered hget =>
    rw [Registry.get?_register] at hget
    split at hget
    · cases hget
      exact .inr rfl
    · exact .inl (.registered hget)
  | bound hb => exact .inl (.bound hb)

theorem of_push {header : String} {b : Binding} (h : Shown types (package.push header b) type) :
    Shown types package type ∨ type = b.shown := by
  cases h with
  | registered hget => exact .inl (.registered hget)
  | bound hb =>
    rcases Package.mem_bindings_push.1 hb with rfl | hb
    · exact .inr rfl
    · exact .inl (.bound hb)

theorem of_foldl_push {header : String} {added : List Binding}
    (h : Shown types (added.foldl (·.push header ·) package) type) :
    Shown types package type ∨ ∃ b ∈ added, type = b.shown := by
  cases h with
  | registered hget => exact .inl (.registered hget)
  | bound hb =>
    rcases Package.mem_bindings_foldl_push.1 hb with hb | hb
    · exact .inr ⟨_, hb, rfl⟩
    · exact .inl (.bound hb)

end Shown

namespace Session

/-- A session shows a type. -/
def Shows (s : Session) (type : TargetType) : Prop := Shown s.types s.package type

/-- A declaration gives a type in a session, and the name of a record is registered behind it. -/
inductive Gives (s t : Session) : TargetType → Prop where
  | signature {f signature} : s.converter.signature f = .ok signature → Gives s t (.func signature)
  | type {underlying type} : s.converter.type false underlying = .ok type → Gives s t type
  | record {target tag body fields} : (s.openRecord target).converter.record tag body = .ok fields →
      target ∈ t.types → Gives s t (.struct fields)
  | enum : Gives s t Catalog.enumType

variable {s t : Session} {p : Place} {d : Decl} {type : TargetType}

/-! ### Steps and visits

A type that is shown after a step was shown before it, or it is the one that the step adds.
-/

theorem shows_of_emitType {target : String} (h : (s.emitType p d target).Shows type) :
    s.Shows type := by
  rcases emitType_cases s p d target with heq | ⟨declared, hget, -, -, -, heq⟩
  · rwa [heq] at h
  · rw [heq] at h
    -- the binding shows what is registered
    rcases Shown.of_push h with h | rfl
    · exact h
    · exact .registered hget

theorem shows_of_declareType {target : String} {declared : DeclaredType}
    (h : (s.declareType p d target declared).Shows type) :
    s.Shows type ∨ type = declared.underlying :=
  Shown.of_register (shows_of_emitType h)

theorem shows_of_bindFunction {f : FunctionDecl} {signature : Signature TargetType}
    (h : (s.bindFunction p d f signature).Shows type) :
    s.Shows type ∨ type = .func signature := by
  unfold bindFunction Shows at h
  dsimp only at h
  split at h
  · exact Shown.of_push h
  · exact .inl h

theorem shows_of_declareEnum {name : Option String} (h : (s.declareEnum p d name).Shows type) :
    s.Shows type ∨ type = Catalog.enumType := by
  rcases declareEnum_cases s p d name with heq | ⟨target, heq⟩
  · rw [heq] at h
    exact .inl h
  · rw [heq] at h
    exact shows_of_declareType h

theorem shows_of_bindEnumerators {name : Option String} {items : List (Enumerator × Int64)}
    (h : (s.bindEnumerators p d name items).Shows type) :
    s.Shows type ∨ type = Catalog.enumType := by
  unfold bindEnumerators at h
  split at h
  · rcases Shown.of_foldl_push h with h | ⟨b, hb, rfl⟩
    · exact .inl h
    · obtain ⟨e, -, rfl⟩ := List.mem_map.1 hb
      exact .inr rfl
  · exact .inl h

/-- **A visit shows nothing new but what its declaration gives.** -/
theorem Outcome.shows (houtcome : Outcome s p d t) (h : t.Shows type) :
    s.Shows type ∨ s.Gives t type := by
  cases houtcome with
  | passed => exact .inl h
  | failed =>
    rw [skip_eq] at h
    exact .inl h
  | function _ _ _ hok =>
    rcases shows_of_bindFunction h with h | rfl
    · exact .inl h
    · exact .inr (.signature hok)
  | takenRecord | takenTypedef => exact .inl (shows_of_emitType h)
  | @record name _ _ fields _ _ _ hok =>
    rcases shows_of_declareType h with h | rfl
    · exact .inl h
    · refine .inr (.record hok ?_)
      obtain ⟨emitted, package, heq⟩ :=
        declareType_eq s p d (s.rules.typeName name) ⟨.struct, .struct fields⟩
      rw [heq]
      exact Registry.mem_register.2 (.inl rfl)
  | typedef _ _ hok =>
    rcases shows_of_declareType h with h | rfl
    · exact .inl h
    · exact .inr (.type hok)
  | enum =>
    rcases shows_of_bindEnumerators h with h | rfl
    · rcases shows_of_declareEnum h with h | rfl
      · exact .inl h
      · exact .inr .enum
    · exact .inr .enum

/-- **What holds of all converted types holds of everything that a run shows.** -/
theorem of_shows_processAll {motive : TargetType → Prop}
    (h : ∀ s t type, Gives s t type → motive type) (options : SessionOptions)
    (units : List HeaderUnit) :
    ∀ type, ((start options).processAll units).Shows type → motive type := by
  refine processAll_preserves (motive := fun s => ∀ type, s.Shows type → motive type) ?_ ?_ units
  · intro s p d ih type hshows
    rcases (outcome_visit s p d).shows hshows with hshows | hgives
    · exact ih type hshows
    · exact h s (s.visit p d) type hgives
  · -- nothing is registered or bound before the first header
    intro type hshows
    cases hshows with
    | registered hget => cases hget
    | bound hb => cases hb

end Session

end HeaderBindings
