import HeaderBindings.Proofs.Conversion.References
import HeaderBindings.Session.Visit

/-!
# What a visit can do

A visit passes over its declaration, or its conversion fails and is reported, or the visit does the
one thing that the kind of the declaration asks for. `Session.Outcome` lists these cases together
with the conditions under which each arises. What a session keeps from visit to visit follows from
the list, without a look into the visits themselves.

| kind | passed over | fails to be converted | otherwise |
|---|---|---|---|
| function | not exported, or not of the header | its signature | named, indexed, bound |
| record | without a name | one of its fields | registered and bound |
| typedef | of a known name, or renaming a tag | its type | registered and bound |
| enumeration | never | one of its values | registered, enumerators bound |
| anything else | always | never | |

An enumeration without a name is not registered, and its enumerators are bound all the same.

A record or a typedef whose target name is taken is not converted, and so it does not fail either;
its type may still be bound, if it is declared in the header that is visited (`Outcome.takenRecord`,
`Outcome.takenTypedef`).

The list is complete (`outcome_visit`), with conditions that say everything a later proof may ask
for. Two consequences of it are used throughout: no visit changes the settings of a session
(`Outcome.settings_eq`), and only visits of functions touch the counter and the index
(`Outcome.eq_or_bindFunction`).
-/

namespace HeaderBindings.Session

/-- A visit passes over a declaration: there is nothing to convert in it. -/
inductive Passes (s : Session) (p : Place) (d : Decl) : Prop where
  | scope {name} : d.kind = .scope name → Passes s p d
  | linkage : d.kind = .linkage → Passes s p d
  | unknown {kind} : d.kind = .unknown kind → Passes s p d
  | hiddenFunction {f} : d.kind = .function f → ¬ (p.holds d ∧ isExported f d) → Passes s p d
  | unnamedRecord {tag body} : d.kind = .record "" tag body → Passes s p d
  | knownTypedef {name underlying} : d.kind = .typedef name underlying →
      (Catalog.typedef? (s.rules.trim name)).isSome → Passes s p d
  | renamedTag {name underlying} : d.kind = .typedef name underlying →
      s.renamesTag (s.rules.typeName name) underlying → Passes s p d

/-- A typedef is there to be converted: it is not known without its declaration, and it gives a new
name. -/
structure IsTypedef (s : Session) (d : Decl) (name : String) (underlying : CType) : Prop where
  kind : d.kind = .typedef name underlying
  unknown : ¬ (Catalog.typedef? (s.rules.trim name)).isSome
  renames : ¬ s.renamesTag (s.rules.typeName name) underlying

/-- The conversion of a declaration fails, under the label and for the cause with which it is
reported. A record and a typedef are converted only while their target name is free. -/
inductive FailsAt (s : Session) (p : Place) (d : Decl) : String → ConversionError → Prop where
  | function {f cause} : d.kind = .function f → isExported f d →
      s.converter.signature f.type = .error cause →
      FailsAt s p d (p.qualified f.displayName) cause
  | record {name tag body cause} : d.kind = .record name tag body → name ≠ "" →
      s.rules.typeName name ∉ s.types →
      (s.openRecord (s.rules.typeName name)).converter.record tag body = .error cause →
      FailsAt s p d (p.qualified name) cause
  | typedef {name underlying cause} : s.IsTypedef d name underlying →
      s.rules.typeName name ∉ s.types →
      s.converter.type false underlying = .error cause →
      FailsAt s p d (p.qualified name) cause
  | enum {name items cause} : d.kind = .enum name items →
      Enumeration.values items = .error cause →
      FailsAt s p d (p.qualified (name.getD "(anonymous enum)")) cause

/-- What a visit of a declaration can make of a session. -/
inductive Outcome (s : Session) (p : Place) (d : Decl) : Session → Prop where
  | passed : s.Passes p d → Outcome s p d s
  | failed {label cause} : s.FailsAt p d label cause → Outcome s p d (s.skip p d label cause)
  | function {f signature} : d.kind = .function f → p.holds d → isExported f d →
      s.converter.signature f.type = .ok signature →
      Outcome s p d (s.bindFunction p d f signature)
  /-- A record whose name is taken is bound at most. -/
  | takenRecord {name tag body} : d.kind = .record name tag body → name ≠ "" →
      s.rules.typeName name ∈ s.types → Outcome s p d (s.emitType p d (s.rules.typeName name))
  | record {name tag body fields} : d.kind = .record name tag body → name ≠ "" →
      s.rules.typeName name ∉ s.types →
      (s.openRecord (s.rules.typeName name)).converter.record tag body = .ok fields →
      Outcome s p d (s.declareType p d (s.rules.typeName name) ⟨.struct, .struct fields⟩)
  /-- A typedef whose name is taken is bound at most. -/
  | takenTypedef {name underlying} : s.IsTypedef d name underlying →
      s.rules.typeName name ∈ s.types → Outcome s p d (s.emitType p d (s.rules.typeName name))
  | typedef {name underlying type} : s.IsTypedef d name underlying →
      s.rules.typeName name ∉ s.types → s.converter.type false underlying = .ok type →
      Outcome s p d (s.declareType p d (s.rules.typeName name) ⟨.alias, type⟩)
  | enum {name items values} : d.kind = .enum name items → Enumeration.values items = .ok values →
      Outcome s p d ((s.declareEnum p d name).bindEnumerators p d name (items.zip values))

variable {s : Session} {p : Place} {d : Decl}

/-! ### A visit for each kind of declaration

The functions for the kinds of declarations are opened here, and only here, one after the other.
Each of their branches is one of the cases of the list.
-/

theorem outcome_visitFunction {f : FunctionDecl} (hkind : d.kind = .function f) :
    Outcome s p d (s.visitFunction p d f) := by
  unfold visitFunction
  split
  · next h =>
    obtain ⟨hholds, hexported⟩ := Bool.and_eq_true_iff.1 h
    split
    · next cause hfail => exact .failed (.function hkind hexported hfail)
    · next signature hok => exact .function hkind hholds hexported hok
  · next h =>
    refine .passed (.hiddenFunction hkind ?_)
    rwa [Bool.and_eq_true] at h

theorem outcome_visitRecord {name : String} {tag : Tag} {body : List (Slot CType)}
    (hkind : d.kind = .record name tag body) : Outcome s p d (s.visitRecord p d name tag body) := by
  unfold visitRecord
  split
  · next hname => exact .passed (.unnamedRecord (hname ▸ hkind))
  · next hname =>
    dsimp only
    split
    · next htaken => exact .takenRecord hkind hname htaken
    · next hfree =>
      split
      · next fields hok =>
        rw [completeRecord_openRecord hfree]
        exact .record hkind hname hfree hok
      · next cause hfail =>
        rw [withdrawRecord_openRecord hfree]
        exact .failed (.record hkind hname hfree hfail)

/-- A typedef is never converted to its own name: the name would have been registered before. -/
theorem ne_of_type_eq_named {target own : String} {underlying : CType} (hfree : target ∉ s.types)
    (h : s.converter.type false underlying = .ok (.named own)) : own ≠ target := by
  rintro rfl
  exact hfree (Converter.mem_of_type_mentions h .named)

theorem outcome_visitTypedef {name : String} {underlying : CType}
    (hkind : d.kind = .typedef name underlying) :
    Outcome s p d (s.visitTypedef p d name underlying) := by
  unfold visitTypedef
  dsimp only
  split
  · next h =>
    rcases Bool.or_eq_true_iff.1 h with h | h
    · exact .passed (.knownTypedef hkind h)
    · exact .passed (.renamedTag hkind h)
  · next h =>
    rw [Bool.or_eq_true, not_or] at h
    have htypedef : s.IsTypedef d name underlying := ⟨hkind, h.1, h.2⟩
    split
    · next htaken => exact .takenTypedef htypedef htaken
    · next hfree =>
      split
      · next cause hfail => exact .failed (.typedef htypedef hfree hfail)
      · next type hok =>
        split
        · next own =>
          rw [if_neg (ne_of_type_eq_named hfree hok)]
          exact .typedef htypedef hfree hok
        · exact .typedef htypedef hfree hok

theorem outcome_visitEnum {name : Option String} {items : List Enumerator}
    (hkind : d.kind = .enum name items) : Outcome s p d (s.visitEnum p d name items) := by
  unfold visitEnum
  split
  · next cause hfail => exact .failed (.enum hkind hfail)
  · next values hok => exact .enum hkind hok

/-! ### Any visit

What follows from the list for every visit, and the converse for visits that fail: the conditions of
a failure determine what the visit does.
-/

/-- **The list of outcomes is complete.** -/
theorem outcome_visit (s : Session) (p : Place) (d : Decl) : Outcome s p d (s.visit p d) := by
  unfold visit
  split
  · next hkind => exact outcome_visitRecord hkind
  · next hkind => exact outcome_visitFunction hkind
  · next hkind => exact outcome_visitEnum hkind
  · next hkind => exact outcome_visitTypedef hkind
  · next hkind => exact .passed (.scope hkind)
  · next hkind => exact .passed (.linkage hkind)
  · next hkind => exact .passed (.unknown hkind)

/-- **Only functions are named and indexed.** Every other visit leaves rules, overrides, decoration,
counter and index alone. -/
theorem Outcome.eq_or_bindFunction {t : Session} (h : Outcome s p d t) :
    (∃ types package skipped emitted, t = { s with types, package, skipped, emitted }) ∨
      ∃ f signature, d.kind = .function f ∧ p.holds d ∧ isExported f d ∧
        s.converter.signature f.type = .ok signature ∧ t = s.bindFunction p d f signature := by
  cases h with
  | passed => exact .inl ⟨s.types, s.package, s.skipped, s.emitted, rfl⟩
  | failed => exact .inl ⟨s.types, s.package, _, s.emitted, skip_eq s p d _ _⟩
  | function hkind hholds hexported hok =>
    exact .inr ⟨_, _, hkind, hholds, hexported, hok, rfl⟩
  | takenRecord | takenTypedef =>
    obtain ⟨emitted, package, h⟩ := emitType_eq s p d _
    exact .inl ⟨s.types, package, s.skipped, emitted, h⟩
  | record | typedef =>
    obtain ⟨emitted, package, h⟩ := declareType_eq s p d _ _
    exact .inl ⟨_, package, s.skipped, emitted, h⟩
  | enum =>
    obtain ⟨types, emitted, package, h⟩ := declareEnum_eq s p d _
    obtain ⟨package', h'⟩ := bindEnumerators_eq (s.declareEnum p d _) p d _ _
    rw [h', h]
    exact .inl ⟨types, package', s.skipped, emitted, rfl⟩

/-- Every visit but that of a function leaves the index alone. -/
theorem Outcome.symbols_of_not_function {t : Session} (h : Outcome s p d t)
    (hother : ∀ f, d.kind ≠ .function f) : t.symbols = s.symbols := by
  rcases h.eq_or_bindFunction with
    ⟨types, package, skipped, emitted, ht⟩ | ⟨f, signature, hf, -, -, -, -⟩
  · rw [ht]
  · exact absurd hf (hother f)

/-- **What shapes the names of a run stays as it is**: the prefix rules, the overrides, and what is
taken off from symbols. -/
theorem Outcome.settings_eq {t : Session} (h : Outcome s p d t) :
    t.rules = s.rules ∧ t.overrides = s.overrides ∧ t.decoration = s.decoration := by
  rcases h.eq_or_bindFunction with
    ⟨types, package, skipped, emitted, ht⟩ | ⟨f, signature, -, -, -, -, ht⟩
  · rw [ht]
    exact ⟨rfl, rfl, rfl⟩
  · rw [ht]
    exact ⟨rfl, rfl, rfl⟩

theorem Outcome.of_function {t : Session} (h : Outcome s p d t) {f : FunctionDecl}
    (hkind : d.kind = .function f) :
    (∃ skipped, t = { s with skipped }) ∨
      ∃ signature, p.holds d ∧ isExported f d ∧ t = s.bindFunction p d f signature := by
  cases h with
  | passed => exact .inl ⟨s.skipped, rfl⟩
  | failed => exact .inl ⟨_, skip_eq s p d _ _⟩
  | function hkind' hholds hexported =>
    cases hkind.symm.trans hkind'
    exact .inr ⟨_, hholds, hexported, rfl⟩
  | takenRecord hkind' | record hkind' | enum hkind' => cases hkind.symm.trans hkind'
  | takenTypedef htypedef | typedef htypedef => cases hkind.symm.trans htypedef.kind

theorem skip_of_not_holds {label : String} {cause : ConversionError} (h : ¬ p.holds d) :
    s.skip p d label cause = s :=
  if_neg h

/-- **A visit whose conversion fails only reports the failure.** -/
theorem visit_of_failsAt {label : String} {cause : ConversionError}
    (h : s.FailsAt p d label cause) : s.visit p d = s.skip p d label cause := by
  unfold visit
  cases h with
  | function hkind hexported hfail =>
    rw [hkind]
    dsimp only
    unfold visitFunction
    by_cases hholds : p.holds d
    · rw [hholds, hexported, hfail]
      rfl
    · -- functions of other headers are not even converted
      rw [skip_of_not_holds hholds, eq_false_of_ne_true hholds]
      rfl
  | record hkind hname hfree hfail =>
    rw [hkind]
    dsimp only
    unfold visitRecord
    rw [if_neg hname]
    dsimp only
    -- the record was opened before its fields were converted, and is withdrawn again
    rw [if_neg hfree, hfail, withdrawRecord_openRecord hfree]
  | typedef htypedef hfree hfail =>
    rw [htypedef.kind]
    dsimp only
    unfold visitTypedef
    dsimp only
    have hpasses := not_or.2 ⟨htypedef.unknown, htypedef.renames⟩
    rw [← Bool.or_eq_true] at hpasses
    rw [if_neg hpasses, if_neg hfree, hfail]
  | enum hkind hfail =>
    rw [hkind]
    dsimp only
    unfold visitEnum
    rw [hfail]

end HeaderBindings.Session
