import HeaderBindings.Text.Word
import Mathlib.Data.Nat.Digits.Defs

/-!
# Decimal spellings

The decimal spelling of a number consists of digits, starts with a zero only if it is `0`, and is
read back to the number (`number?_repr`).

The spelling is that of the standard library, which has its own lemmas about digits; the reading is
the one by which literals of every radix are read. The three facts connect the two, and whoever
prints a number and reads it again needs nothing else of either.
-/

namespace HeaderBindings.Text

/-! ### Reading digits -/

/-- A decimal digit has its distance from `0` as its value. -/
theorem digitIn?_ten {c : Char} (h : c.isDigit) : digitIn? 10 c = some (c.toNat - '0'.toNat) := by
  have hbounds : '0' ≤ c ∧ c ≤ '9' := by
    rw [Char.isDigit, Bool.and_eq_true, decide_eq_true_iff, decide_eq_true_iff] at h
    exact h
  have hdigit : isDigit c := by
    rw [isDigit, Bool.and_eq_true, decide_eq_true_iff, decide_eq_true_iff]
    exact hbounds
  have hle : c.toNat ≤ '9'.toNat := hbounds.2
  have hlt : c.toNat - '0'.toNat < 10 := by
    have hnine : '9'.toNat = 57 := rfl
    have hzero : '0'.toNat = 48 := rfl
    omega
  rw [digitIn?, digitValue?, if_pos hdigit, Option.filter_some, decide_eq_true hlt]
  rfl

/-- Digits spell the number that they denote at their places. -/
theorem numberFrom?_ten {cs : List Char} (h : ∀ c ∈ cs, c.isDigit) (acc : Nat) :
    numberFrom? 10 acc cs = some (Nat.ofDigitChars 10 cs acc) := by
  induction cs generalizing acc with
  | nil => rfl
  | cons c rest ih =>
    have hrest : ∀ d ∈ rest, d.isDigit := fun d hd => h d (List.mem_cons_of_mem c hd)
    rw [numberFrom?, digitIn?_ten (h c List.mem_cons_self), Nat.ofDigitChars_cons, Nat.mul_comm 10]
    exact ih hrest _

/-! ### The digits of a number -/

/-- A decimal spelling consists of digits. -/
theorem isDigit_of_mem_repr {n : Nat} {c : Char} (h : c ∈ n.repr.toList) : c.isDigit := by
  rw [Nat.toList_repr] at h
  exact Nat.isDigit_of_mem_toDigits (by decide) (by decide) h

/-- A decimal spelling is not empty. -/
theorem repr_toList_ne_nil (n : Nat) : n.repr.toList ≠ [] := by
  rw [Nat.toList_repr]
  exact Nat.toDigits_ne_nil

/-- **The decimal spelling of a number is read back.** -/
theorem number?_repr (n : Nat) : number? 10 n.repr.toList = some n := by
  have hread : numberFrom? 10 0 n.repr.toList = some n := by
    rw [numberFrom?_ten (fun c => isDigit_of_mem_repr), Nat.toList_repr,
      Nat.ofDigitChars_ten_toDigits]
  cases hcs : n.repr.toList with
  | nil => exact absurd hcs (repr_toList_ne_nil n)
  | cons c rest =>
    show numberFrom? 10 0 (c :: rest) = some n
    rw [← hcs]
    exact hread

/-- A decimal spelling starts with a zero only if nothing follows it. -/
theorem eq_nil_of_repr_eq_zero_cons {n : Nat} {rest : List Char}
    (h : n.repr.toList = '0' :: rest) : rest = [] := by
  rw [Nat.toList_repr] at h
  -- by induction on the number without its last digit
  induction n using Nat.strong_induction_on generalizing rest with
  | _ n ih =>
    rw [Nat.toDigits_eq_if (by decide)] at h
    split at h
    · exact (List.cons.inj h).2.symm
    · next hge =>
      cases hfront : Nat.toDigits 10 (n / 10) with
      | nil => exact absurd hfront Nat.toDigits_ne_nil
      | cons c front =>
        rw [hfront, List.cons_append] at h
        obtain ⟨rfl, -⟩ := List.cons.inj h
        have hnil : front = [] := ih (n / 10) (by omega) hfront
        -- the digits in front are a lone zero, so the number has only one digit
        have hzero : n / 10 = 0 := by
          rw [← Nat.ofDigitChars_ten_toDigits (n := n / 10), hfront, hnil]
          rfl
        omega

end HeaderBindings.Text
