import HeaderBindings.Text.Word
import Mathlib.Data.List.Forall2
import Mathlib.Data.Nat.Digits.Defs
import Mathlib.Tactic.Ring

/-!
# Digits of a radix

A digit up to fifteen is spelled by one character, a letter of either case from ten on. A text is
read as a number exactly if it spells digits below the radix, and the number is the one that these
denote at their places (`number?_eq_some_iff`).

Numbers are read from the front, and with each digit what has been read so far moves one place up.
Mathlib gives the number of a list of digits from the other end (`Nat.ofDigits`), so the two are
brought together by reversing the list (`positional`). The accumulator of the reader then stands in
front of all digits that are still to come, and is worth as many places as there are of them: that
is the statement which goes through by induction on the text (`numberFrom?_eq_some_iff`).
-/

namespace HeaderBindings.Text

/-- A character spells a digit of a radix: `0` to `9`, then letters of either case. -/
structure Denotes (radix : Nat) (c : Char) (d : Nat) : Prop where
  lt : d < radix
  char : c = d.digitChar ∨ c = d.digitChar.toUpper

/-- The number that digits denote at their places, with the most significant digit first. -/
def positional (radix : Nat) (ds : List Nat) : Nat := Nat.ofDigits radix ds.reverse

theorem positional_cons (radix d : Nat) (ds : List Nat) :
    positional radix (d :: ds) = positional radix ds + radix ^ ds.length * d := by
  rw [positional, positional, List.reverse_cons, Nat.ofDigits_append, Nat.ofDigits_singleton,
    List.length_reverse]

theorem positional_zero_cons (radix : Nat) (ds : List Nat) :
    positional radix (0 :: ds) = positional radix ds := by
  rw [positional_cons, Nat.mul_zero, Nat.add_zero]

/-! ### Single digits

Which character spells which digit is a matter of finitely many characters. One direction is decided
for all sixteen digits at once; for the other one, the value of a character gives back its code.
-/

theorem digitValue?_digitChar : ∀ d < 16,
    digitValue? d.digitChar = some d ∧ digitValue? d.digitChar.toUpper = some d := by
  decide

theorem eq_ofNat_of_toNat_sub {c : Char} {first d : Nat} (hfirst : first ≤ c.toNat)
    (h : c.toNat - first = d) : c = Char.ofNat (first + d) := by
  have hc : first + d = c.toNat := by omega
  rw [hc, Char.ofNat_toNat]

theorem eq_digitChar_of_digitValue? {c : Char} {d : Nat} (hd : d < 16)
    (h : digitValue? c = some d) : c = d.digitChar ∨ c = d.digitChar.toUpper := by
  have hdigit : ∀ d < 10, Char.ofNat (48 + d) = d.digitChar := by decide
  have hlower : ∀ d < 6, Char.ofNat (97 + d) = (d + 10).digitChar := by decide
  have hupper : ∀ d < 6, Char.ofNat (65 + d) = (d + 10).digitChar.toUpper := by decide
  unfold digitValue? at h
  split at h
  · next hc =>
    rw [isDigit, Bool.and_eq_true, decide_eq_true_iff, decide_eq_true_iff] at hc
    have hlow : 48 ≤ c.toNat := hc.1
    have hhigh : c.toNat ≤ 57 := hc.2
    have hval : c.toNat - 48 = d := Option.some.inj h
    rw [eq_ofNat_of_toNat_sub hlow hval]
    exact .inl (hdigit d (by omega))
  · split at h
    · next hc =>
      have hlow : 97 ≤ c.toNat := hc.1
      have hval : c.toNat - 97 + 10 = d := Option.some.inj h
      rw [eq_ofNat_of_toNat_sub hlow rfl, ← hval]
      exact .inl (hlower _ (by omega))
    · split at h
      · next hc =>
        have hlow : 65 ≤ c.toNat := hc.1
        have hval : c.toNat - 65 + 10 = d := Option.some.inj h
        rw [eq_ofNat_of_toNat_sub hlow rfl, ← hval]
        exact .inr (hupper _ (by omega))
      · cases h

theorem digitIn?_eq_some_iff {radix : Nat} (hradix : radix ≤ 16) {c : Char} {d : Nat} :
    digitIn? radix c = some d ↔ Denotes radix c d := by
  rw [digitIn?, Option.filter_eq_some_iff, decide_eq_true_iff]
  constructor
  · rintro ⟨hvalue, hlt⟩
    exact ⟨hlt, eq_digitChar_of_digitValue? (by omega) hvalue⟩
  · rintro ⟨hlt, hchar⟩
    obtain ⟨hlower, hupper⟩ := digitValue?_digitChar d (by omega)
    rcases hchar with rfl | rfl
    · exact ⟨hlower, hlt⟩
    · exact ⟨hupper, hlt⟩

/-! ### Numbers

The digits of a text are a list of numbers, related to the characters one by one. A text without
characters spells no number.
-/

/-- By induction on the text: the digits that have been read move one place up with each new one. -/
theorem numberFrom?_eq_some_iff {radix : Nat} (hradix : radix ≤ 16) {acc n : Nat}
    {cs : List Char} : numberFrom? radix acc cs = some n ↔ ∃ ds,
      List.Forall₂ (Denotes radix) cs ds ∧ n = positional radix ds + radix ^ ds.length * acc := by
  induction cs generalizing acc with
  | nil =>
    rw [numberFrom?]
    constructor
    · intro h
      cases h
      exact ⟨[], .nil, by simp [positional]⟩
    · rintro ⟨ds, hds, rfl⟩
      cases hds
      simp [positional]
  | cons c rest ih =>
    have hplaces : ∀ d ds, positional radix (d :: ds) + radix ^ (d :: ds).length * acc =
        positional radix ds + radix ^ ds.length * (acc * radix + d) := by
      intro d ds
      rw [positional_cons, List.length_cons]
      ring
    rw [numberFrom?, Option.bind_eq_bind, Option.bind_eq_some_iff]
    constructor
    · rintro ⟨d, hd, hrest⟩
      obtain ⟨ds, hds, rfl⟩ := ih.1 hrest
      exact ⟨d :: ds, .cons ((digitIn?_eq_some_iff hradix).1 hd) hds, (hplaces d ds).symm⟩
    · rintro ⟨_, hds, rfl⟩
      cases hds with
      | cons hd hds =>
        exact ⟨_, (digitIn?_eq_some_iff hradix).2 hd, ih.2 ⟨_, hds, hplaces _ _⟩⟩

/-- **A text is read as a number exactly if it spells the digits of the number.** -/
theorem number?_eq_some_iff {radix : Nat} (hradix : radix ≤ 16) {n : Nat} {cs : List Char} :
    number? radix cs = some n ↔
      cs ≠ [] ∧ ∃ ds, List.Forall₂ (Denotes radix) cs ds ∧ n = positional radix ds := by
  cases cs with
  | nil => simp [number?]
  | cons c rest =>
    rw [number?.eq_def]
    dsimp only
    rw [numberFrom?_eq_some_iff hradix]
    simp

/-! ### The characters of digits

A list of all characters that spell digits, for facts that are decided character by character.
-/

def digitChars : List Char := "0123456789abcdefABCDEF".toList

theorem Denotes.mem_digitChars {radix : Nat} (hradix : radix ≤ 16) {c : Char} {d : Nat}
    (h : Denotes radix c d) : c ∈ digitChars := by
  have hall : ∀ d < 16, d.digitChar ∈ digitChars ∧ d.digitChar.toUpper ∈ digitChars := by decide
  obtain ⟨hlower, hupper⟩ := hall d (h.lt.trans_le hradix)
  rcases h.char with rfl | rfl
  · exact hlower
  · exact hupper

end HeaderBindings.Text
