import HeaderBindings.Header.Enumeration
import HeaderBindings.Proofs.Header.Literals
import HeaderBindings.Proofs.Text.Decimal

/-!
# Values that the compiler reports

The value of an enumerator is reported as a number, spelled as a decimal literal, and read when the
enumeration is converted. Literals have no sign: a value is read back unless it is negative, and
then it is not read at all (`Constant.eval?_ofInt64`). So an enumeration of reported values has just
these values, or fails at the first negative one (`Enumeration.values_reported`).

The spelling of a number without a sign is a literal in the sense of `IntLiteral.IsLiteral`, so that
the theorem on literals tells its value. A sign in front is the only thing that goes wrong: nothing
with a minus sign is accepted as a literal. What a reported value is read as therefore depends on
the value alone, and not on the enumerators in front of it, which explains why the induction on an
enumeration needs no invariant.
-/

namespace HeaderBindings

/-! ### Decimal spellings as literals

A decimal spelling consists of digits and perhaps a minus sign, so there are no blanks to be trimmed
and no apostrophes or suffixes to be taken off.
-/

namespace IntLiteral

/-- What a decimal spelling consists of. -/
def IsPlain (c : Char) : Prop := c.isDigit ∨ c = '-'

theorem IsPlain.bounds {c : Char} (h : IsPlain c) :
    c.toNat = '-'.toNat ∨ ('0'.toNat ≤ c.toNat ∧ c.toNat ≤ '9'.toNat) := by
  rcases h with h | rfl
  · rw [Char.isDigit, Bool.and_eq_true, decide_eq_true_iff, decide_eq_true_iff] at h
    exact .inr h
  · exact .inl rfl

theorem IsPlain.not_blank {c : Char} (h : IsPlain c) : Text.isBlank c = false := by
  have hbounds := h.bounds
  have hdash : '-'.toNat = 45 := rfl
  have hzero : '0'.toNat = 48 := rfl
  have hnine : '9'.toNat = 57 := rfl
  rw [hdash, hzero, hnine] at hbounds
  simp only [Text.isBlank, Text.blankRanges, List.any_cons, List.any_nil, Bool.or_eq_false_iff,
    Bool.and_eq_false_iff, decide_eq_false_iff_not, and_true]
  omega

theorem trimChars_of_plain {cs : List Char} (h : ∀ c ∈ cs, IsPlain c) : Text.trimChars cs = cs := by
  have htrim := trimChars_append (List.forall_mem_nil _) (fun c hc => (h c hc).not_blank)
    (List.forall_mem_nil _)
  rwa [List.nil_append, List.append_nil] at htrim

/-- **The decimal spelling of a number is a literal of it.** -/
theorem isLiteral_repr (n : Nat) : IsLiteral n n.repr.toList := by
  obtain ⟨hne, ds, hdigits, hn⟩ := (Text.number?_eq_some_iff (by decide)).1 (Text.number?_repr n)
  have hseparated : Separated 10 ds n.repr.toList := .of_forall₂ hne hdigits
  have hspells : Spells (Text.positional 10 ds) n.repr.toList := .decimal hseparated
    (eq_of_head?_eq_zero hseparated fun rest => Text.eq_nil_of_repr_eq_zero_cons)
  have hliteral := IsLiteral.intro hspells (List.forall_mem_nil _)
  rwa [← hn, List.append_nil] at hliteral

theorem value?_repr (n : Nat) : value? n.repr = Text.signed? false n := by
  have hvalue := value?_eq_signed? (isLiteral_repr n) (List.forall_mem_nil _)
    (List.forall_mem_nil _)
  rwa [List.nil_append, List.append_nil, String.ofList_toList] at hvalue

theorem value?_neg_repr (n : Nat) : value? ("-" ++ n.repr) = none := by
  have hchars : ("-" ++ n.repr).toList = '-' :: n.repr.toList := by
    rw [String.toList_append]
    rfl
  have htrim : Text.trimChars ("-" ++ n.repr).toList = '-' :: n.repr.toList := by
    rw [hchars]
    exact trimChars_of_plain (List.forall_mem_cons.2
      ⟨.inr rfl, fun c hc => .inl (Text.isDigit_of_mem_repr hc)⟩)
  rw [value?_of_not_quoted, htrim]
  · cases hread : readInteger ('-' :: n.repr.toList) with
    | none => rfl
    | some v =>
      obtain ⟨m, haccepted, -⟩ := exists_isAccepted_of_readInteger hread
      exact absurd List.mem_cons_self haccepted.minus_not_mem
  · rw [htrim]
    rintro ⟨hquote, -⟩
    cases hquote

end IntLiteral

/-! ### Reported values

An enumeration whose enumerators have reported values never counts on from an earlier enumerator. It
has the reported values, up to the first one that cannot be read.
-/

/-- **The literal of a reported value has this value, unless it is negative.** -/
theorem Constant.eval?_ofInt64 (env : String → Option Int64) (n : Int64) :
    (ofInt64 n).eval? env = if n < 0 then none else some n := by
  have hlt := n.toInt_lt
  cases hn : n.toInt with
  | ofNat m =>
    have hpos : ¬ n < 0 := by
      rw [Int64.lt_iff_toInt_lt, hn]
      exact Int.not_lt.2 (Int.natCast_nonneg m)
    have hfits : m < Text.signBound := by
      rw [hn, Int.ofNat_eq_natCast] at hlt
      unfold Text.signBound
      omega
    have hword : Int64.ofNat m = n := by
      rw [← Int64.ofInt_toInt n, hn]
      rfl
    rw [if_neg hpos, ofInt64, eval?, hn]
    show IntLiteral.value? m.repr = some n
    rw [IntLiteral.value?_repr, Text.signed?, if_neg (by decide), if_pos hfits, hword]
  | negSucc m =>
    have hneg : n < 0 := by
      rw [Int64.lt_iff_toInt_lt, hn]
      exact Int.negSucc_lt_zero m
    rw [if_pos hneg, ofInt64, eval?, hn]
    exact IntLiteral.value?_neg_repr m.succ

namespace Enumeration

/-- An enumerator with the value that the compiler reports for it. -/
def reported (e : String × Int64) : Enumerator := ⟨e.1, some (.ofInt64 e.2)⟩

theorem value_reported (earlier : Earlier) (next : Int64) (e : String × Int64) :
    value earlier next (reported e) =
      if e.2 < 0 then .error (.enumeratorValue (.ofInt64 e.2) e.1) else .ok e.2 := by
  rw [value, reported]
  dsimp only
  rw [Constant.eval?_ofInt64]
  by_cases hneg : e.2 < 0
  · rw [if_pos hneg, if_pos hneg]
  · rw [if_neg hneg, if_neg hneg]

/-- The first enumerator with a negative value. -/
def firstNegative? (items : List (String × Int64)) : Option (String × Int64) :=
  items.find? fun e => e.2 < 0

theorem firstNegative?_eq_none_iff {items : List (String × Int64)} :
    firstNegative? items = none ↔ ∀ e ∈ items, 0 ≤ e.2 := by
  simp only [firstNegative?, List.find?_eq_none, decide_eq_true_eq, Int64.not_lt]

theorem valuesFrom_reported (items : List (String × Int64)) (earlier : Earlier) (next : Int64) :
    valuesFrom earlier next (items.map reported) =
      match firstNegative? items with
      | none => .ok (items.map Prod.snd)
      | some e => .error (.enumeratorValue (.ofInt64 e.2) e.1) := by
  induction items generalizing earlier next with
  | nil => rfl
  | cons e rest ih =>
    rw [List.map_cons, valuesFrom, value_reported, firstNegative?, List.find?_cons]
    by_cases hneg : e.2 < 0
    · rw [if_pos hneg, decide_eq_true hneg]
      rfl
    · rw [if_neg hneg, decide_eq_false hneg]
      show (valuesFrom _ _ (rest.map reported) >>= fun others => .ok (e.2 :: others)) = _
      rw [ih]
      show _ = match firstNegative? rest with
        | none => _
        | some e => _
      cases firstNegative? rest <;> rfl

/-- **Reported values are read back, up to the first negative one, which stops the conversion.** -/
theorem values_reported (items : List (String × Int64)) :
    values (items.map reported) =
      match firstNegative? items with
      | none => .ok (items.map Prod.snd)
      | some e => .error (.enumeratorValue (.ofInt64 e.2) e.1) :=
  valuesFrom_reported items [] 0

end Enumeration

end HeaderBindings
