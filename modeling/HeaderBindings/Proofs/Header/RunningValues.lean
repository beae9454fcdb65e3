import HeaderBindings.Session.Visit
import Mathlib.Data.List.Induction

/-!
# Running values of enumerators

What the values of an enumeration are, without the loop that finds them: an expression has its
value where each name stands for the last enumerator of this name in front, and an enumerator
without an expression is one above its predecessor (`HasValue`, `AsInC`). The loop finds these
values, and it stops exactly at the first enumerator that has none. The enumeration then leaves
nothing behind in the session but its report (`values_running`).

The loop goes through the enumerators once. It carries the next running value and the values that it
has found, as a list with the latest in front, and a lookup in this list finds the nearest name. The
statement has neither: an enumerator is judged by the enumerators in front of it, as a reader of the
header would do. What connects the two is that the list of the loop is the front in reverse
(`earlier`, `lookup_earlier`), so that one step of the loop is one application of `HasValue`.

Values are words of 64 bits. One above the greatest is the least, in the loop and in `successor`
alike, and no enumeration fails for a value that is too large to be counted up.
-/

namespace HeaderBindings.Enumeration

/-- Enumerators with their values. -/
abbrev Valued := List (Enumerator × Int64)

variable {front : Valued} {item : Enumerator} {v : Int64} {expr : Constant}

/-- The value of the last enumerator of a name. -/
def latest? (front : Valued) (name : String) : Option Int64 :=
  (front.reverse.find? fun e => e.1.name = name).map Prod.snd

/-- One above the last value, modulo 2^64, or zero where there is none. -/
def successor (front : Valued) : Int64 :=
  match front.getLast? with
  | some e => e.2 + 1
  | none => 0

/-- The value of an enumerator behind those in front. -/
structure HasValue (front : Valued) (item : Enumerator) (v : Int64) : Prop where
  explicit : ∀ expr, item.value = some expr → expr.eval? (latest? front) = some v
  implicit : item.value = none → v = successor front

/-- The expression of an enumerator has no value behind those in front. -/
structure HasNone (front : Valued) (item : Enumerator) (expr : Constant) : Prop where
  explicit : item.value = some expr
  unresolved : expr.eval? (latest? front) = none

/-- Each enumerator has its value behind those in front of it. -/
def AsInC (valued : Valued) : Prop :=
  ∀ front item v back, valued = front ++ (item, v) :: back → HasValue front item v

/-! ### Behind one more enumerator

The definitions look at the end of the front, so everything about them is proved for a front with
one more enumerator, and by induction from the end.
-/

theorem latest?_append_singleton (front : Valued) (item : Enumerator) (v : Int64)
    (name : String) :
    latest? (front ++ [(item, v)]) name =
      if item.name = name then some v else latest? front name := by
  unfold latest?
  rw [List.reverse_append, List.reverse_singleton, List.singleton_append, List.find?_cons]
  by_cases h : item.name = name
  · rw [if_pos h, decide_eq_true h]
    rfl
  · rw [if_neg h, decide_eq_false h]

/-- **The last enumerator of a name counts**: behind it there is none of the name. -/
theorem latest?_eq_some_iff {name : String} :
    latest? front name = some v ↔
      ∃ older item newer, front = older ++ (item, v) :: newer ∧ item.name = name ∧
        ∀ e ∈ newer, e.1.name ≠ name := by
  unfold latest?
  rw [Option.map_eq_some_iff]
  constructor
  · rintro ⟨⟨item, _⟩, hfind, rfl⟩
    obtain ⟨hname, newer, older, hsplit, hnewer⟩ := List.find?_eq_some_iff_append.1 hfind
    refine ⟨older.reverse, item, newer.reverse, ?_, of_decide_eq_true hname, ?_⟩
    · rw [← List.reverse_reverse front, hsplit, List.reverse_append, List.reverse_cons,
        List.append_assoc, List.singleton_append]
    · intro e he
      simpa using hnewer e (List.mem_reverse.1 he)
  · rintro ⟨older, item, newer, rfl, hname, hnewer⟩
    refine ⟨(item, v), List.find?_eq_some_iff_append.2 ⟨decide_eq_true hname, newer.reverse,
      older.reverse, ?_, ?_⟩, rfl⟩
    · rw [List.reverse_append, List.reverse_cons, List.append_assoc, List.singleton_append]
    · intro e he
      simpa using hnewer e (List.mem_reverse.1 he)

@[simp] theorem successor_append_singleton (front : Valued) (item : Enumerator) (v : Int64) :
    successor (front ++ [(item, v)]) = v + 1 := by
  rw [successor, List.getLast?_concat]

theorem asInC_nil : AsInC [] := by
  intro front item v back h
  exact absurd h.symm (List.append_ne_nil_of_right_ne_nil _ (List.cons_ne_nil _ _))

theorem asInC_append_singleton :
    AsInC (front ++ [(item, v)]) ↔ AsInC front ∧ HasValue front item v := by
  constructor
  · intro h
    refine ⟨fun pre e w back heq => h pre e w (back ++ [(item, v)]) ?_, h front item v [] rfl⟩
    rw [heq, List.append_assoc, List.cons_append]
  · rintro ⟨hfront, hlast⟩ pre e w back heq
    -- the place is the last one, or one of those in front
    rcases List.eq_nil_or_concat back with rfl | ⟨rest, last, rfl⟩
    · obtain ⟨rfl, h⟩ := List.append_inj' heq rfl
      cases h
      exact hlast
    · rw [List.concat_eq_append, ← List.cons_append, ← List.append_assoc] at heq
      exact hfront pre e w rest (List.append_inj' heq rfl).1

theorem hasValue_or_hasNone (front : Valued) (item : Enumerator) :
    (∃ v, HasValue front item v) ∨ ∃ expr, HasNone front item expr := by
  cases hitem : item.value with
  | none => exact .inl ⟨successor front, by simp [hitem], fun _ => rfl⟩
  | some expr =>
    cases heval : expr.eval? (latest? front) with
    | none => exact .inr ⟨expr, hitem, heval⟩
    | some v =>
      refine .inl ⟨v, ?_, ?_⟩
      · intro other hother
        cases hitem.symm.trans hother
        exact heval
      · intro hnone
        cases hitem.symm.trans hnone

/-! ### One step of the loop

Behind a front in which each enumerator has its value, a step finds the value of the next one if
there is one, and fails with its name if there is none.
-/

/-- What the loop keeps of the enumerators that it has passed. -/
def earlier (front : Valued) : Earlier := (front.map fun e => (e.1.name, e.2)).reverse

/-- The latest enumerator comes first. -/
theorem earlier_append_singleton (front : Valued) (item : Enumerator) (v : Int64) :
    earlier (front ++ [(item, v)]) = (item.name, v) :: earlier front := by
  unfold earlier
  rw [List.map_append, List.reverse_append]
  rfl

/-- **The loop has the environment of the enumerators that it has passed.** -/
theorem lookup_earlier (front : Valued) : ((earlier front).lookup ·) = latest? front := by
  funext name
  induction front using List.reverseRecOn with
  | nil => rfl
  | append_singleton front last ih =>
    rw [earlier_append_singleton, latest?_append_singleton, List.lookup_cons, ih]
    by_cases h : last.1.name = name
    · rw [if_pos h, beq_iff_eq.2 h.symm]
    · rw [if_neg h, beq_eq_false_iff_ne.2 (Ne.symm h)]

theorem value_of_hasValue (h : HasValue front item v) :
    value (earlier front) (successor front) item = .ok v := by
  unfold value
  rw [lookup_earlier]
  cases hitem : item.value with
  | none => rw [h.implicit hitem]
  | some expr =>
    dsimp only
    rw [h.explicit expr hitem]

theorem value_of_hasNone (h : HasNone front item expr) :
    value (earlier front) (successor front) item =
      .error (.enumeratorValue expr item.name) := by
  unfold value
  rw [lookup_earlier, h.explicit]
  dsimp only
  rw [h.unresolved]

/-! ### Runs of the loop

Steps that find values add up, whatever follows. So the loop either passes all enumerators or comes
to a first one without a value, and these two cases exclude each other.
-/

/-- **The loop passes enumerators that have values**, and goes on with those behind them. -/
theorem values_append_of_asInC (h : AsInC front) (rest : List Enumerator) :
    values (front.map Prod.fst ++ rest) =
      (valuesFrom (earlier front) (successor front) rest).map (front.map Prod.snd ++ ·) := by
  induction front using List.reverseRecOn generalizing rest with
  | nil =>
    show valuesFrom [] 0 rest = (valuesFrom [] 0 rest).map fun others => others
    cases valuesFrom [] 0 rest <;> rfl
  | append_singleton front last ih =>
    obtain ⟨item, v⟩ := last
    obtain ⟨hfront, hlast⟩ := asInC_append_singleton.1 h
    have hstep : valuesFrom (earlier front) (successor front) (item :: rest) =
        (valuesFrom (earlier (front ++ [(item, v)])) (v + 1) rest).map (v :: ·) := by
      rw [valuesFrom, value_of_hasValue hlast, earlier_append_singleton]
      rfl
    rw [List.map_append, List.append_assoc, List.map_singleton, List.singleton_append,
      ih hfront, hstep, successor_append_singleton, List.map_append]
    cases valuesFrom (earlier (front ++ [(item, v)])) (v + 1) rest with
    | error cause => rfl
    | ok others => simp [Except.map]

theorem values_of_asInC (h : AsInC front) :
    values (front.map Prod.fst) = .ok (front.map Prod.snd) := by
  have hrun := values_append_of_asInC h []
  rw [List.append_nil] at hrun
  rw [hrun]
  show Except.ok (front.map Prod.snd ++ []) = _
  rw [List.append_nil]

/-- The loop stops at the first enumerator that has no value, whatever stands behind it. -/
theorem values_of_hasNone (h : AsInC front) (hnone : HasNone front item expr)
    (back : List Enumerator) :
    values (front.map Prod.fst ++ item :: back) = .error (.enumeratorValue expr item.name) := by
  rw [values_append_of_asInC h, valuesFrom, value_of_hasNone hnone]
  rfl

/-- All enumerators have values, or there is a first one that has none. -/
theorem asInC_or_hasNone (items : List Enumerator) :
    (∃ valued, AsInC valued ∧ valued.map Prod.fst = items) ∨
      ∃ front item back expr, AsInC front ∧ HasNone front item expr ∧
        items = front.map Prod.fst ++ item :: back := by
  induction items using List.reverseRecOn with
  | nil => exact .inl ⟨[], asInC_nil, rfl⟩
  | append_singleton items last ih =>
    rcases ih with ⟨front, hfront, rfl⟩ | ⟨front, item, back, expr, hfront, hnone, rfl⟩
    · rcases hasValue_or_hasNone front last with ⟨v, hv⟩ | ⟨expr, hnone⟩
      · exact .inl ⟨front ++ [(last, v)], asInC_append_singleton.2 ⟨hfront, hv⟩, by simp⟩
      · exact .inr ⟨front, last, [], expr, hfront, hnone, rfl⟩
    · refine .inr ⟨front, item, back ++ [last], expr, hfront, hnone, ?_⟩
      rw [List.append_assoc, List.cons_append]

/-! ### The values

Of the two cases each has its own result of the loop, so both can be read backwards: values mean
that each enumerator has its value, and a failure names the first that has none.
-/

theorem values_eq_ok_iff {items : List Enumerator} {vs : List Int64} :
    values items = .ok vs ↔ vs.length = items.length ∧ AsInC (items.zip vs) := by
  constructor
  · intro h
    rcases asInC_or_hasNone items with ⟨valued, hvalued, rfl⟩ |
      ⟨front, item, back, expr, hfront, hnone, rfl⟩
    · rw [values_of_asInC hvalued] at h
      cases h
      rw [← List.zip_of_prod rfl rfl]
      exact ⟨by rw [List.length_map, List.length_map], hvalued⟩
    · rw [values_of_hasNone hfront hnone] at h
      cases h
  · rintro ⟨hlength, h⟩
    have hrun := values_of_asInC h
    rwa [List.map_fst_zip (Nat.le_of_eq hlength.symm),
      List.map_snd_zip (Nat.le_of_eq hlength)] at hrun

theorem values_eq_error_iff {items : List Enumerator} {cause : ConversionError} :
    values items = .error cause ↔
      ∃ front item back expr, AsInC front ∧ items = front.map Prod.fst ++ item :: back ∧
        HasNone front item expr ∧ cause = .enumeratorValue expr item.name := by
  constructor
  · intro h
    rcases asInC_or_hasNone items with ⟨valued, hvalued, rfl⟩ |
      ⟨front, item, back, expr, hfront, hnone, rfl⟩
    · rw [values_of_asInC hvalued] at h
      cases h
    · rw [values_of_hasNone hfront hnone] at h
      cases h
      exact ⟨front, item, back, expr, hfront, rfl, hnone, rfl⟩
  · rintro ⟨front, item, back, expr, hfront, rfl, hnone, rfl⟩
    exact values_of_hasNone hfront hnone back

/-- **There are values exactly if each expression has one behind the enumerators in front.** -/
theorem exists_values_iff {items : List Enumerator} :
    (∃ vs, values items = .ok vs) ↔
      ∀ front item back expr, AsInC front → items = front.map Prod.fst ++ item :: back →
        item.value = some expr → ∃ v, expr.eval? (latest? front) = some v := by
  constructor
  · rintro ⟨vs, h⟩ front item back expr hfront rfl hitem
    cases heval : expr.eval? (latest? front) with
    | some v => exact ⟨v, rfl⟩
    | none =>
      rw [values_of_hasNone hfront ⟨hitem, heval⟩] at h
      cases h
  · intro h
    rcases asInC_or_hasNone items with ⟨valued, hvalued, rfl⟩ |
      ⟨front, item, back, expr, hfront, hnone, hitems⟩
    · exact ⟨_, values_of_asInC hvalued⟩
    · obtain ⟨v, hv⟩ := h front item back expr hfront hitems hnone.explicit
      cases hnone.unresolved.symm.trans hv

/-- An enumeration without values leaves nothing behind but its report. -/
theorem visit_of_values_eq_error {items : List Enumerator} {cause : ConversionError}
    (h : values items = .error cause) (s : Session) (p : Place) {d : Decl} {name : Option String}
    (hkind : d.kind = .enum name items) :
    s.visit p d = { s with
      skipped := s.skipped ++ if p.holds d then
        [⟨p.qualified (name.getD "(anonymous enum)"), p.file, cause⟩] else [] } := by
  rw [Session.visit, hkind]
  dsimp only
  rw [Session.visitEnum, h]
  exact Session.skip_eq s p d _ cause

/-- **Enumerators have the values that C gives them.** A name stands for the last enumerator of this
name in front, and for nothing if there is none. With it each expression has to have a value, and
if each has one, the enumerators with expressions have these values, and the others are one above
their predecessor. Otherwise the first enumerator whose expression has no value is the cause, and
a visit of the enumeration changes nothing but the reports. -/
theorem values_running (items : List Enumerator) :
    (∀ front name v, latest? front name = some v ↔
      ∃ older item newer, front = older ++ (item, v) :: newer ∧ item.name = name ∧
        ∀ e ∈ newer, e.1.name ≠ name) ∧
    ((∃ vs, values items = .ok vs) ↔
      ∀ front item back expr, AsInC front → items = front.map Prod.fst ++ item :: back →
        item.value = some expr → ∃ v, expr.eval? (latest? front) = some v) ∧
    (∀ vs, values items = .ok vs ↔ vs.length = items.length ∧ AsInC (items.zip vs)) ∧
    (∀ cause, values items = .error cause ↔
      ∃ front item back expr, AsInC front ∧ items = front.map Prod.fst ++ item :: back ∧
        HasNone front item expr ∧ cause = .enumeratorValue expr item.name) ∧
    ∀ cause, values items = .error cause →
      ∀ (s : Session) (p : Place) (d : Decl) (name : Option String), d.kind = .enum name items →
        s.visit p d = { s with
          skipped := s.skipped ++ if p.holds d then
            [⟨p.qualified (name.getD "(anonymous enum)"), p.file, cause⟩] else [] } :=
  ⟨fun _ _ _ => latest?_eq_some_iff, exists_values_iff, fun _ => values_eq_ok_iff,
    fun _ => values_eq_error_iff,
    fun _ h s p _ _ hkind => visit_of_values_eq_error h s p hkind⟩

/-- The last `A` counts, the greatest word is followed by the least one, and a name that is declared
only later stands for nothing. -/
theorem values_running_repeated_name :
    AsInC [(⟨"A", none⟩, 0), (⟨"A", some (.literal "0x7fffffffffffffff")⟩, Int64.maxValue),
      (⟨"B", none⟩, Int64.minValue), (⟨"C", some (.neg (.paren (.name "A")))⟩, -Int64.maxValue)] ∧
    values [⟨"A", none⟩, ⟨"B", some (.name "C")⟩, ⟨"C", none⟩] =
      .error (.enumeratorValue (.name "C") "B") ∧
    ((Session.start {}).visit ⟨"a.h", []⟩
      { kind := .enum (some "e") [⟨"A", none⟩, ⟨"B", some (.name "C")⟩, ⟨"C", none⟩],
        location := ⟨some "a.h", 0, 0⟩ }).package = {} := by
  have hok : values [⟨"A", none⟩, ⟨"A", some (.literal "0x7fffffffffffffff")⟩, ⟨"B", none⟩,
      ⟨"C", some (.neg (.paren (.name "A")))⟩] =
      .ok [0, Int64.maxValue, Int64.minValue, -Int64.maxValue] := by decide +kernel
  have herror : values [⟨"A", none⟩, ⟨"B", some (.name "C")⟩, ⟨"C", none⟩] =
      .error (.enumeratorValue (.name "C") "B") := by decide +kernel
  refine ⟨(((values_running _).2.2.1 _).1 hok).2, herror, ?_⟩
  rw [(values_running _).2.2.2.2 _ herror _ _ _ _ rfl]
  rfl

end HeaderBindings.Enumeration
