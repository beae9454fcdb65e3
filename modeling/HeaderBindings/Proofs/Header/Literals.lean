import HeaderBindings.Header.IntLiteral
import HeaderBindings.Proofs.Text.Digits
import Mathlib.Data.Bool.AllAny
import Mathlib.Data.List.Chain
import Mathlib.Data.List.DropRight

/-!
# Which texts are integer literals

The form of an integer literal of C is a relation between numbers and texts (`IsLiteral`): an
optional prefix that announces the radix, digits with apostrophes between them, and a suffix. The
reader takes the suffix off the end, splits off the prefix and drops all apostrophes, and none of
these steps takes what belongs to another part. So every literal is read with its value
(`value?_of_isLiteral`).

The reader accepts more than that (`IsAccepted`): a plus sign in front of the digits, and
apostrophes that do not stand alone between two digits. What it accepts is a literal exactly if it
has neither (`isLiteral_iff_of_isAccepted`).

## Three descriptions of the same texts

* `Spells` follows the grammar: one constructor per radix, and digits that are given one by one
  (`Separated`). It is the description to compare with the standard, and the one in terms of which
  the result is stated.
* `Parts` takes a text apart: what is announced, what is left behind the prefix, and conditions on
  the apostrophes there. The grammar and the parts describe the same texts (`spells_iff`). This is
  where the two sides differ in details: a zero in front of octal digits is one of the digits in the
  grammar and part of the prefix for the reader, and a single zero is a decimal number.
* `IsAccepted` says what the reader does: it is `Parts` without the conditions on apostrophes, and
  with a sign. That the reader computes it is proved separately (`isAccepted_iff`), so that nothing
  about the reader itself is used when accepted texts are compared with literals.

## Which characters belong where

The steps of the reader are independent because they look for different characters. Digits and the
letters of prefixes are no letters of suffixes, so that the suffix ends where the digits do; neither
are they blanks, so that trimming takes nothing off; and apostrophes and signs are no digits. These
are statements on short lists of characters, which are decided.
-/

namespace HeaderBindings.IntLiteral

open Text

/-! ### Literals

The relation is not a function in either direction. A number has literals in every radix, and with
apostrophes at different places; and an octal literal of zero such as `00` is one of the same number
as `0`.
-/

/-- Digits one behind the other, with single apostrophes between some of them. -/
inductive Separated (radix : Nat) : List Nat → List Char → Prop where
  | last {d c} : Denotes radix c d → Separated radix [d] [c]
  | digit {d c ds cs} : Denotes radix c d → Separated radix ds cs →
      Separated radix (d :: ds) (c :: cs)
  | apostrophe {d c ds cs} : Denotes radix c d → Separated radix ds cs →
      Separated radix (d :: ds) (c :: '\'' :: cs)

/-- A number as it is spelled in a literal. A leading zero announces another radix than ten, unless
it is the whole number. -/
inductive Spells : Nat → List Char → Prop where
  | decimal {ds cs} : Separated 10 ds cs → (ds.head? = some 0 → ds = [0]) →
      Spells (positional 10 ds) cs
  /-- The zero in front is itself an octal digit. -/
  | octal {ds cs} : Separated 8 (0 :: ds) cs → ds ≠ [] → Spells (positional 8 (0 :: ds)) cs
  | hexadecimal {x ds cs} : x = 'x' ∨ x = 'X' → Separated 16 ds cs →
      Spells (positional 16 ds) ('0' :: x :: cs)
  | binary {b ds cs} : b = 'b' ∨ b = 'B' → Separated 2 ds cs →
      Spells (positional 2 ds) ('0' :: b :: cs)

/-- The letters of which suffixes consist, in any order and number. -/
def suffixLetters : List Char := ['u', 'U', 'l', 'L']

/-- A literal of a number: its spelling, and a suffix of any letters that suffixes are made of. -/
inductive IsLiteral : Nat → List Char → Prop where
  | intro {n cs suffix} : Spells n cs → (∀ c ∈ suffix, c ∈ suffixLetters) →
      IsLiteral n (cs ++ suffix)

/-! ### What is accepted

The conditions on apostrophes are stated for the text as the reader cuts it, so that they can be
decided for a given text.
-/

/-- A text announces a radix for what follows the prefix. -/
inductive Announces : List Char → Nat → List Char → Prop where
  | hexadecimal {x body} : x = 'x' ∨ x = 'X' → Announces ('0' :: x :: body) 16 body
  | binary {b body} : b = 'b' ∨ b = 'B' → Announces ('0' :: b :: body) 2 body
  | octal {c body} : c ∉ ['x', 'X', 'b', 'B'] → Announces ('0' :: c :: body) 8 (c :: body)
  | decimal {body} : (∀ rest, body = '0' :: rest → rest = []) → Announces body 10 body

/-- A text without its apostrophes. -/
def unseparated (cs : List Char) : List Char := cs.filter (· ≠ '\'')

/-- A text that is read as a number: digits of the radix that is announced, with apostrophes
anywhere among them and perhaps a plus sign in front of the first one, and a suffix. -/
inductive IsAccepted : Nat → List Char → Prop where
  | intro {text radix body digits ds suffix} : Announces text radix body →
      unseparated body = digits ∨ unseparated body = '+' :: digits →
      digits ≠ [] → List.Forall₂ (Denotes radix) digits ds → (∀ c ∈ suffix, c ∈ suffixLetters) →
      IsAccepted (positional radix ds) (text ++ suffix)

/-- No two apostrophes stand side by side. -/
def Apart (cs : List Char) : Prop := cs.IsChain fun a b => ¬ (a = '\'' ∧ b = '\'')

instance (cs : List Char) : Decidable (Apart cs) :=
  inferInstanceAs (Decidable (List.IsChain _ _))

/-- An apostrophe stands in front of the first digit, behind the last one or beside another
apostrophe. The zero that announces octal digits is one of them. -/
def HasStrayApostrophe (cs : List Char) : Prop :=
  ((splitRadix (dropSuffix cs)).1 ≠ 8 ∧ (splitRadix (dropSuffix cs)).2.head? = some '\'') ∨
    (splitRadix (dropSuffix cs)).2.getLast? = some '\'' ∨ ¬ Apart (splitRadix (dropSuffix cs)).2

instance (cs : List Char) : Decidable (HasStrayApostrophe cs) :=
  inferInstanceAs (Decidable (_ ∨ _))

/-! ### Characters

What holds of each character of a list is decided by going through the list
(`List.all_iff_forall_prop`), not through all characters.
-/

theorem isSuffixLetter_iff {c : Char} : isSuffixLetter c = true ↔ c ∈ suffixLetters := by
  simp [isSuffixLetter, suffixLetters, or_assoc]

/-- Digits are neither apostrophes nor signs, nor do suffixes consist of them. -/
theorem of_mem_digitChars : ∀ c ∈ digitChars,
    c ≠ '\'' ∧ c ≠ '+' ∧ c ∉ suffixLetters ∧ isBlank c = false :=
  List.all_iff_forall_prop.1 (by decide)

theorem mem_digitChars_of_forall₂ {radix : Nat} (hradix : radix ≤ 16) {cs : List Char}
    {ds : List Nat} (h : List.Forall₂ (Denotes radix) cs ds) : ∀ c ∈ cs, c ∈ digitChars := by
  induction h with
  | nil => exact List.forall_mem_nil _
  | cons hd _ ih => exact List.forall_mem_cons.2 ⟨hd.mem_digitChars hradix, ih⟩

theorem denotes_zero_iff {radix : Nat} (hradix : radix ≤ 16) {d : Nat} (hpos : 0 < radix) :
    Denotes radix '0' d ↔ d = 0 := by
  have hzero : digitIn? radix '0' = some 0 := by
    rw [digitIn?, Option.filter_eq_some_iff]
    exact ⟨by decide, decide_eq_true hpos⟩
  rw [← digitIn?_eq_some_iff hradix, hzero, Option.some_inj, eq_comm]

theorem eq_of_denotes_zero {radix : Nat} {c : Char} (h : Denotes radix c 0) : c = '0' := by
  rcases h.char with rfl | rfl <;> rfl

/-! ### Apostrophes between digits

Apostrophes stand between digits exactly if, without them, digits remain, none of them stands at an
end, and no two of them stand side by side.
-/

theorem unseparated_cons {c : Char} (hc : c ≠ '\'') (cs : List Char) :
    unseparated (c :: cs) = c :: unseparated cs :=
  List.filter_cons_of_pos (decide_eq_true hc)

theorem unseparated_ne_nil {cs : List Char} (hne : cs ≠ []) (hlast : cs.getLast? ≠ some '\'') :
    unseparated cs ≠ [] := by
  rw [List.getLast?_eq_some_getLast hne] at hlast
  have hmem : cs.getLast hne ∈ unseparated cs :=
    List.mem_filter.2 ⟨List.getLast_mem hne, by simpa using hlast⟩
  exact List.ne_nil_of_mem hmem

theorem Apart.cons {c : Char} (hc : c ≠ '\'') {cs : List Char} (h : Apart cs) : Apart (c :: cs) :=
  List.IsChain.cons h fun _ _ hboth => hc hboth.1

theorem ne_apostrophe {radix : Nat} (hradix : radix ≤ 16) {c : Char} {d : Nat}
    (h : Denotes radix c d) : c ≠ '\'' :=
  (of_mem_digitChars c (h.mem_digitChars hradix)).1

namespace Separated

variable {radix : Nat} {ds : List Nat} {cs : List Char}

theorem exists_cons (h : Separated radix ds cs) :
    ∃ d c rest, Denotes radix c d ∧ cs = c :: rest := by
  cases h with
  | last hd | digit hd | apostrophe hd => exact ⟨_, _, _, hd, rfl⟩

theorem ne_nil (h : Separated radix ds cs) : cs ≠ [] := by
  obtain ⟨-, c, rest, -, rfl⟩ := h.exists_cons
  exact List.cons_ne_nil c rest

theorem head?_ne (hradix : radix ≤ 16) (h : Separated radix ds cs) : cs.head? ≠ some '\'' := by
  obtain ⟨d, c, rest, hc, rfl⟩ := h.exists_cons
  simpa using ne_apostrophe hradix hc

/-- Without the apostrophes, digits remain. -/
theorem forall₂ (hradix : radix ≤ 16) (h : Separated radix ds cs) :
    List.Forall₂ (Denotes radix) (unseparated cs) ds := by
  induction h with
  | last hd =>
    rw [unseparated_cons (ne_apostrophe hradix hd)]
    exact .cons hd .nil
  | digit hd _ ih | apostrophe hd _ ih =>
    rw [unseparated_cons (ne_apostrophe hradix hd)]
    exact .cons hd ih

theorem getLast?_ne (hradix : radix ≤ 16) (h : Separated radix ds cs) :
    cs.getLast? ≠ some '\'' := by
  induction h with
  | last hd => simpa using ne_apostrophe hradix hd
  | digit hd hrest ih | apostrophe hd hrest ih =>
    obtain ⟨-, c, rest, -, rfl⟩ := hrest.exists_cons
    exact ih

theorem apart (hradix : radix ≤ 16) (h : Separated radix ds cs) : Apart cs := by
  induction h with
  | last hd => exact .singleton _
  | digit hd _ ih => exact ih.cons (ne_apostrophe hradix hd)
  | apostrophe hd hrest ih =>
    obtain ⟨d, c, rest, hc, rfl⟩ := hrest.exists_cons
    have hrun : Apart ('\'' :: c :: rest) :=
      List.IsChain.cons_cons (fun hboth => ne_apostrophe hradix hc hboth.2) ih
    exact hrun.cons (ne_apostrophe hradix hd)

/-- Digits need no apostrophes. -/
theorem of_forall₂ (hne : cs ≠ []) (h : List.Forall₂ (Denotes radix) cs ds) :
    Separated radix ds cs := by
  induction h with
  | nil => exact absurd rfl hne
  | cons hd hrest ih =>
    cases hrest with
    | nil => exact .last hd
    | cons => exact .digit hd (ih (List.cons_ne_nil _ _))

end Separated

/-- **Digits with single apostrophes, but not at the ends, are digits with apostrophes between
them**, by induction on the digits. -/
theorem separated_of_forall₂ {radix : Nat} {ds : List Nat} {cs : List Char} (hne : cs ≠ [])
    (hdigits : List.Forall₂ (Denotes radix) (unseparated cs) ds)
    (hhead : cs.head? ≠ some '\'') (hlast : cs.getLast? ≠ some '\'') (hapart : Apart cs) :
    Separated radix ds cs := by
  induction ds generalizing cs with
  | nil => exact absurd (List.forall₂_nil_right_iff.1 hdigits) (unseparated_ne_nil hne hlast)
  | cons d ds ih =>
    obtain ⟨c, rest, rfl⟩ := List.exists_cons_of_ne_nil hne
    have hc : c ≠ '\'' := by simpa using hhead
    rw [unseparated_cons hc] at hdigits
    obtain ⟨hd, hdigits⟩ := List.forall₂_cons.1 hdigits
    cases rest with
    | nil =>
      cases hdigits
      exact .last hd
    | cons next rest =>
      have hrest : Apart (next :: rest) := hapart.tail
      by_cases hnext : next = '\''
      · subst hnext
        have hne : rest ≠ [] := by
          rintro rfl
          exact hlast rfl
        obtain ⟨after, rest, rfl⟩ := List.exists_cons_of_ne_nil hne
        have hafter : after ≠ '\'' := fun hafter => hrest.rel ⟨rfl, hafter⟩
        exact .apostrophe hd (ih hne hdigits (by simpa using hafter) hlast hrest.tail)
      · exact .digit hd (ih (List.cons_ne_nil _ _) hdigits (by simpa using hnext) hlast hrest)

/-! ### Prefixes

What a text announces is told by its first two characters, and in one way only.
-/

theorem announces_splitRadix (text : List Char) :
    Announces text (splitRadix text).1 (splitRadix text).2 := by
  unfold splitRadix
  split
  case h_1 => exact .hexadecimal (.inl rfl)
  case h_2 => exact .hexadecimal (.inr rfl)
  case h_3 => exact .binary (.inl rfl)
  case h_4 => exact .binary (.inr rfl)
  case h_5 c cs hx hX hb hB =>
    apply Announces.octal
    simpa [not_or] using ⟨hx, hX, hb, hB⟩
  case h_6 hzero =>
    apply Announces.decimal
    intro rest hrest
    cases rest with
    | nil => rfl
    | cons c rest => exact absurd hrest (hzero c rest)

theorem Announces.splitRadix_eq {text body : List Char} {radix : Nat}
    (h : Announces text radix body) : splitRadix text = (radix, body) := by
  cases h with
  | hexadecimal hx => rcases hx with rfl | rfl <;> rfl
  | binary hb => rcases hb with rfl | rfl <;> rfl
  | octal hc =>
    simp only [List.mem_cons, List.not_mem_nil, or_false, not_or] at hc
    rw [splitRadix]
    · exact fun h => hc.1 h
    · exact fun h => hc.2.1 h
    · exact fun h => hc.2.2.1 h
    · exact fun h => hc.2.2.2 h
  | decimal hzero =>
    unfold splitRadix
    split
    case h_6 => rfl
    all_goals exact absurd (hzero _ rfl) (List.cons_ne_nil _ _)

theorem Announces.radix_le {text body : List Char} {radix : Nat} (h : Announces text radix body) :
    radix ≤ 16 := by
  cases h <;> decide

/-! ### Spellings by their parts -/

/-- A text consists of a prefix and digits, with apostrophes only between two of them. -/
structure Parts (text : List Char) (radix : Nat) (body : List Char) (ds : List Nat) : Prop where
  announces : Announces text radix body
  ne_nil : body ≠ []
  digits : List.Forall₂ (Denotes radix) (unseparated body) ds
  head : radix ≠ 8 → body.head? ≠ some '\''
  last : body.getLast? ≠ some '\''
  apart : Apart body

theorem Separated.parts {text cs : List Char} {radix : Nat} {ds : List Nat}
    (h : Separated radix ds cs) (hannounces : Announces text radix cs) :
    Parts text radix cs ds where
  announces := hannounces
  ne_nil := h.ne_nil
  digits := h.forall₂ hannounces.radix_le
  head := fun _ => h.head?_ne hannounces.radix_le
  last := h.getLast?_ne hannounces.radix_le
  apart := h.apart hannounces.radix_le

theorem announces_decimal {ds : List Nat} {cs : List Char} (h : Separated 10 ds cs)
    (hzero : ds.head? = some 0 → ds = [0]) : Announces cs 10 cs := by
  apply Announces.decimal
  rintro rest rfl
  cases h with
  | last => rfl
  | digit hd hrest | apostrophe hd hrest =>
    cases (denotes_zero_iff (by decide) (by decide)).1 hd
    obtain ⟨-, rfl⟩ := List.cons.inj (hzero rfl)
    cases hrest

/-- Decimal digits begin with a zero only if it is the whole number. -/
theorem eq_of_head?_eq_zero {ds : List Nat} {cs : List Char} (h : Separated 10 ds cs)
    (hzero : ∀ rest, cs = '0' :: rest → rest = []) (hds : ds.head? = some 0) : ds = [0] := by
  cases h with
  | last => simpa using hds
  | digit hd hrest =>
    cases hds
    obtain rfl := eq_of_denotes_zero hd
    exact absurd (hzero _ rfl) hrest.ne_nil
  | apostrophe hd =>
    cases hds
    obtain rfl := eq_of_denotes_zero hd
    exact absurd (hzero _ rfl) (List.cons_ne_nil _ _)

/-- The letters that announce a radix are no octal digits. -/
theorem not_mem_of_denotes_octal {c : Char} {d : Nat} (h : Denotes 8 c d) :
    c ∉ ['x', 'X', 'b', 'B'] := by
  have hnone : ∀ c ∈ ['x', 'X', 'b', 'B'], digitIn? 8 c = none :=
    List.all_iff_forall_prop.1 (by decide)
  intro hc
  have hsome := (digitIn?_eq_some_iff (by decide)).2 h
  rw [hnone c hc] at hsome
  cases hsome

theorem exists_parts_octal {ds : List Nat} {cs : List Char} (h : Separated 8 (0 :: ds) cs)
    (hds : ds ≠ []) : ∃ body, Parts cs 8 body ds := by
  have hlast := h.getLast?_ne (by decide)
  have hapart := h.apart (by decide)
  have hdigits := h.forall₂ (by decide)
  cases h with
  | last => exact absurd rfl hds
  | digit hzero hrest =>
    obtain rfl := eq_of_denotes_zero hzero
    obtain ⟨d, c, rest, hc, rfl⟩ := hrest.exists_cons
    exact ⟨_, .octal (not_mem_of_denotes_octal hc), List.cons_ne_nil _ _,
      (List.forall₂_cons.1 hdigits).2, fun h => absurd rfl h, hlast, hapart.tail⟩
  | apostrophe hzero hrest =>
    obtain rfl := eq_of_denotes_zero hzero
    exact ⟨_, .octal (by decide), List.cons_ne_nil _ _, (List.forall₂_cons.1 hdigits).2,
      fun h => absurd rfl h, hlast, hapart.tail⟩

/-- **A number is spelled by a prefix and digits, with apostrophes only between two of them.** -/
theorem spells_iff {n : Nat} {text : List Char} : Spells n text ↔
    ∃ radix body ds, Parts text radix body ds ∧ n = positional radix ds := by
  constructor
  · intro h
    cases h with
    | decimal hcs hzero => exact ⟨_, _, _, hcs.parts (announces_decimal hcs hzero), rfl⟩
    | hexadecimal hx hcs => exact ⟨_, _, _, hcs.parts (.hexadecimal hx), rfl⟩
    | binary hb hcs => exact ⟨_, _, _, hcs.parts (.binary hb), rfl⟩
    | octal hcs hds =>
      obtain ⟨body, hparts⟩ := exists_parts_octal hcs hds
      exact ⟨8, body, _, hparts, positional_zero_cons 8 _⟩
  · rintro ⟨radix, body, ds, ⟨hannounces, hne, hdigits, hhead, hlast, hapart⟩, rfl⟩
    cases hannounces with
    | hexadecimal hx =>
      exact .hexadecimal hx (separated_of_forall₂ hne hdigits (hhead (by decide)) hlast hapart)
    | binary hb =>
      exact .binary hb (separated_of_forall₂ hne hdigits (hhead (by decide)) hlast hapart)
    | decimal hzero =>
      have hseparated := separated_of_forall₂ hne hdigits (hhead (by decide)) hlast hapart
      exact .decimal hseparated (eq_of_head?_eq_zero hseparated hzero)
    | octal hc =>
      -- the zero in front is one more digit
      rw [← positional_zero_cons]
      refine .octal (separated_of_forall₂ (List.cons_ne_nil _ _) ?_ (by simp) hlast
        (hapart.cons (by decide))) ?_
      · rw [unseparated_cons (by decide)]
        exact .cons ⟨by decide, .inl rfl⟩ hdigits
      · rintro rfl
        exact unseparated_ne_nil hne hlast (List.forall₂_nil_right_iff.1 hdigits)

/-! ### Reading

The steps of the reader, one by one: the digits behind a sign, the suffix, the blanks.
-/

/-- A magnitude is read from digits, with or without a plus sign in front of them. -/
theorem readMagnitude_eq_some_iff {radix : Nat} (hradix : radix ≤ 16) {cs : List Char} {n : Nat} :
    readMagnitude radix cs = some n ↔ ∃ digits ds, (cs = digits ∨ cs = '+' :: digits) ∧
      digits ≠ [] ∧ List.Forall₂ (Denotes radix) digits ds ∧ n = positional radix ds := by
  unfold readMagnitude
  split
  · next digits =>
    rw [number?_eq_some_iff hradix]
    constructor
    · rintro ⟨hne, ds, hds, rfl⟩
      exact ⟨digits, ds, .inr rfl, hne, hds, rfl⟩
    · rintro ⟨other, ds, hother, hne, hds, rfl⟩
      rcases hother with rfl | hother
      · -- a plus sign is no digit
        have hplus := mem_digitChars_of_forall₂ hradix hds '+' List.mem_cons_self
        exact absurd rfl (of_mem_digitChars '+' hplus).2.1
      · cases hother
        exact ⟨hne, ds, hds, rfl⟩
  · next hplus =>
    rw [number?_eq_some_iff hradix]
    constructor
    · rintro ⟨hne, ds, hds, rfl⟩
      exact ⟨cs, ds, .inl rfl, hne, hds, rfl⟩
    · rintro ⟨digits, ds, hdigits, hne, hds, rfl⟩
      rcases hdigits with rfl | rfl
      · exact ⟨hne, ds, hds, rfl⟩
      · exact absurd rfl (hplus digits)

theorem rdropWhile_append {p : Char → Bool} {cs back : List Char} (hcs : ∀ c ∈ cs, p c = false)
    (hback : ∀ c ∈ back, p c = true) : (cs ++ back).rdropWhile p = cs := by
  have hself : cs.rdropWhile p = cs :=
    List.rdropWhile_eq_self_iff.2 fun hne => Bool.eq_false_iff.1 (hcs _ (List.getLast_mem hne))
  rw [List.rdropWhile, List.reverse_append, List.dropWhile_append_of_pos]
  · exact hself
  · exact fun c hc => hback c (List.mem_reverse.1 hc)

theorem dropSuffix_append {cs suffix : List Char} (hcs : ∀ c ∈ cs, c ∉ suffixLetters)
    (hsuffix : ∀ c ∈ suffix, c ∈ suffixLetters) : dropSuffix (cs ++ suffix) = cs :=
  rdropWhile_append (fun c hc => Bool.eq_false_iff.2 (isSuffixLetter_iff.not.2 (hcs c hc)))
    fun c hc => isSuffixLetter_iff.2 (hsuffix c hc)

theorem exists_eq_dropSuffix_append (cs : List Char) :
    ∃ suffix, (∀ c ∈ suffix, c ∈ suffixLetters) ∧ cs = dropSuffix cs ++ suffix :=
  ⟨cs.rtakeWhile isSuffixLetter, fun _ hc => isSuffixLetter_iff.1 (List.mem_rtakeWhile_imp hc),
    List.rdropWhile_append_rtakeWhile.symm⟩

theorem trimChars_append {before cs after : List Char} (hbefore : ∀ c ∈ before, isBlank c = true)
    (hcs : ∀ c ∈ cs, isBlank c = false) (hafter : ∀ c ∈ after, isBlank c = true) :
    trimChars (before ++ cs ++ after) = cs := by
  have hfront : (before ++ cs ++ after).dropWhile isBlank = (cs ++ after).dropWhile isBlank := by
    rw [List.append_assoc, List.dropWhile_append_of_pos hbefore]
  show ((before ++ cs ++ after).dropWhile isBlank).rdropWhile isBlank = cs
  rw [hfront]
  cases cs with
  | nil =>
    have hnil : after.dropWhile isBlank = [] := List.dropWhile_eq_nil_iff.2 hafter
    rw [List.nil_append, hnil, List.rdropWhile_nil]
  | cons c rest =>
    rw [List.cons_append,
      List.dropWhile_cons_of_neg (Bool.eq_false_iff.1 (hcs c List.mem_cons_self))]
    exact rdropWhile_append hcs hafter

theorem readInteger_eq (cs : List Char) : readInteger cs =
    (readMagnitude (splitRadix (dropSuffix cs)).1
      (unseparated (splitRadix (dropSuffix cs)).2)).bind (signed? false) :=
  rfl

/-! ### What is accepted is read

For an accepted text the steps of the reader give back the parts of which the text consists.
Conversely, the parts that the steps give are those of an accepted text.
-/

/-- The characters of which a literal consists in front of its suffix, and the plus sign. -/
def bodyChars : List Char := '\'' :: '+' :: 'x' :: 'X' :: digitChars

theorem of_mem_bodyChars : ∀ c ∈ bodyChars, c ∉ suffixLetters ∧ isBlank c = false :=
  List.all_iff_forall_prop.1 (by decide)

theorem mem_bodyChars {body digits : List Char}
    (hbody : unseparated body = digits ∨ unseparated body = '+' :: digits)
    (hdigits : ∀ c ∈ digits, c ∈ digitChars) : ∀ c ∈ body, c ∈ bodyChars := by
  have hall : ∀ c ∈ digitChars, c ∈ bodyChars := List.all_iff_forall_prop.1 (by decide)
  intro c hc
  by_cases hquote : c = '\''
  · rw [hquote]
    decide
  · have hmem : c ∈ unseparated body := List.mem_filter.2 ⟨hc, decide_eq_true hquote⟩
    rcases hbody with hbody | hbody
    · rw [hbody] at hmem
      exact hall c (hdigits c hmem)
    · rw [hbody] at hmem
      rcases List.mem_cons.1 hmem with rfl | hmem
      · decide
      · exact hall c (hdigits c hmem)

theorem Announces.mem_bodyChars {text body : List Char} {radix : Nat}
    (h : Announces text radix body) (hbody : ∀ c ∈ body, c ∈ bodyChars) :
    ∀ c ∈ text, c ∈ bodyChars := by
  cases h with
  | hexadecimal hx =>
    refine List.forall_mem_cons.2 ⟨by decide, List.forall_mem_cons.2 ⟨?_, hbody⟩⟩
    rcases hx with rfl | rfl <;> decide
  | binary hb =>
    refine List.forall_mem_cons.2 ⟨by decide, List.forall_mem_cons.2 ⟨?_, hbody⟩⟩
    rcases hb with rfl | rfl <;> decide
  | octal => exact List.forall_mem_cons.2 ⟨by decide, hbody⟩
  | decimal => exact hbody

theorem dropSuffix_of_announces {text body digits suffix : List Char} {radix : Nat} {ds : List Nat}
    (h : Announces text radix body)
    (hbody : unseparated body = digits ∨ unseparated body = '+' :: digits)
    (hdigits : List.Forall₂ (Denotes radix) digits ds) (hsuffix : ∀ c ∈ suffix, c ∈ suffixLetters) :
    dropSuffix (text ++ suffix) = text := by
  have hmem := h.mem_bodyChars
    (mem_bodyChars hbody (mem_digitChars_of_forall₂ h.radix_le hdigits))
  exact dropSuffix_append (fun c hc => (of_mem_bodyChars c (hmem c hc)).1) hsuffix

/-- **What is accepted is read as the number of its digits, and nothing else is read.** -/
theorem isAccepted_iff {n : Nat} {cs : List Char} : IsAccepted n cs ↔
    readMagnitude (splitRadix (dropSuffix cs)).1 (unseparated (splitRadix (dropSuffix cs)).2) =
      some n := by
  constructor
  · rintro ⟨hannounces, hbody, hne, hdigits, hsuffix⟩
    rw [dropSuffix_of_announces hannounces hbody hdigits hsuffix, hannounces.splitRadix_eq,
      readMagnitude_eq_some_iff hannounces.radix_le]
    exact ⟨_, _, hbody, hne, hdigits, rfl⟩
  · intro h
    obtain ⟨suffix, hsuffix, hcs⟩ := exists_eq_dropSuffix_append cs
    have hannounces := announces_splitRadix (dropSuffix cs)
    obtain ⟨digits, ds, hbody, hne, hdigits, rfl⟩ :=
      (readMagnitude_eq_some_iff hannounces.radix_le).1 h
    have haccepted := IsAccepted.intro hannounces hbody hne hdigits hsuffix
    rw [← hcs] at haccepted
    exact haccepted

theorem IsAccepted.mem_chars {n : Nat} {cs : List Char} (h : IsAccepted n cs) :
    ∀ c ∈ cs, c ∈ bodyChars ∨ c ∈ suffixLetters := by
  obtain ⟨hannounces, hbody, -, hdigits, hsuffix⟩ := h
  have hmem := hannounces.mem_bodyChars
    (mem_bodyChars hbody (mem_digitChars_of_forall₂ hannounces.radix_le hdigits))
  exact List.forall_mem_append.2 ⟨fun c hc => .inl (hmem c hc), fun c hc => .inr (hsuffix c hc)⟩

theorem IsAccepted.isBlank_eq_false {n : Nat} {cs : List Char} (h : IsAccepted n cs) :
    ∀ c ∈ cs, isBlank c = false := by
  have hletters : ∀ c ∈ suffixLetters, isBlank c = false := List.all_iff_forall_prop.1 (by decide)
  intro c hc
  rcases h.mem_chars c hc with hbody | hletter
  · exact (of_mem_bodyChars c hbody).2
  · exact hletters c hletter

/-- Nothing with a minus sign is accepted. -/
theorem IsAccepted.minus_not_mem {n : Nat} {cs : List Char} (h : IsAccepted n cs) : '-' ∉ cs := by
  intro hc
  exact absurd (h.mem_chars '-' hc) (by decide)

/-! ### Literals are accepted

A literal has the form that is accepted, with neither a sign nor stray apostrophes. The converse
puts the three together.
-/

theorem IsLiteral.isAccepted {n : Nat} {cs : List Char} (h : IsLiteral n cs) : IsAccepted n cs := by
  obtain ⟨hspells, hsuffix⟩ := h
  obtain ⟨radix, body, ds, hparts, rfl⟩ := spells_iff.1 hspells
  exact .intro hparts.announces (.inl rfl) (unseparated_ne_nil hparts.ne_nil hparts.last)
    hparts.digits hsuffix

theorem Announces.plus_mem_iff {text body : List Char} {radix : Nat}
    (h : Announces text radix body) : '+' ∈ text ↔ '+' ∈ body := by
  cases h with
  | hexadecimal hx => rcases hx with rfl | rfl <;> simp
  | binary hb => rcases hb with rfl | rfl <;> simp
  | octal => simp
  | decimal => rfl

theorem plus_mem_unseparated_iff {body : List Char} : '+' ∈ unseparated body ↔ '+' ∈ body := by
  simp [unseparated]

theorem not_plus_mem_of_forall₂ {radix : Nat} (hradix : radix ≤ 16) {cs : List Char} {ds : List Nat}
    (h : List.Forall₂ (Denotes radix) cs ds) : '+' ∉ cs :=
  fun hplus => (of_mem_digitChars '+' (mem_digitChars_of_forall₂ hradix h '+' hplus)).2.1 rfl

/-- No literal has a sign. -/
theorem IsLiteral.not_plus_mem {n : Nat} {cs : List Char} (h : IsLiteral n cs) : '+' ∉ cs := by
  obtain ⟨hspells, hsuffix⟩ := h
  obtain ⟨radix, body, ds, hparts, rfl⟩ := spells_iff.1 hspells
  have htext := hparts.announces.plus_mem_iff.not.2 (plus_mem_unseparated_iff.not.1
    (not_plus_mem_of_forall₂ hparts.announces.radix_le hparts.digits))
  have hletter : '+' ∉ suffixLetters := by decide
  rw [List.mem_append]
  exact not_or.2 ⟨htext, fun hmem => hletter (hsuffix '+' hmem)⟩

/-- **What is accepted is a literal exactly if it has no plus sign and no stray apostrophe.** -/
theorem isLiteral_iff_of_isAccepted {n : Nat} {cs : List Char} (h : IsAccepted n cs) :
    IsLiteral n cs ↔ '+' ∉ cs ∧ ¬ HasStrayApostrophe cs := by
  constructor
  · intro hliteral
    refine ⟨hliteral.not_plus_mem, ?_⟩
    obtain ⟨hspells, hsuffix⟩ := hliteral
    obtain ⟨radix, body, ds, hparts, rfl⟩ := spells_iff.1 hspells
    rw [HasStrayApostrophe,
      dropSuffix_of_announces hparts.announces (.inl rfl) hparts.digits hsuffix,
      hparts.announces.splitRadix_eq]
    rintro (⟨hradix, hhead⟩ | hlast | hapart)
    · exact hparts.head hradix hhead
    · exact hparts.last hlast
    · exact hapart hparts.apart
  · rintro ⟨hplus, hstray⟩
    obtain ⟨hannounces, hbody, hne, hdigits, hsuffix⟩ := h
    rw [HasStrayApostrophe, dropSuffix_of_announces hannounces hbody hdigits hsuffix,
      hannounces.splitRadix_eq, not_or, not_or, not_and, not_not] at hstray
    obtain ⟨hhead, hlast, hapart⟩ := hstray
    refine .intro (spells_iff.2 ⟨_, _, _, ⟨hannounces, ?_, ?_, hhead, hlast, hapart⟩, rfl⟩) hsuffix
    · rintro rfl
      rcases hbody with rfl | hbody
      · exact hne rfl
      · cases hbody
    · rcases hbody with hbody | hbody
      · rw [hbody]
        exact hdigits
      · -- the sign would show in the whole text
        have hmem : '+' ∈ unseparated _ := hbody ▸ List.mem_cons_self
        exact absurd (List.mem_append_left _
          (hannounces.plus_mem_iff.2 (plus_mem_unseparated_iff.1 hmem))) hplus

/-! ### Values

A number has to fit into 64 bits with a sign. Characters in quotes are read in another way, which a
literal is never confused with, because it begins with a digit.
-/

/-- What is accepted has its number as value, if that fits into 64 bits with a sign. -/
theorem readInteger_of_isAccepted {n : Nat} {cs : List Char} (h : IsAccepted n cs) :
    readInteger cs = signed? false n := by
  rw [readInteger_eq, isAccepted_iff.1 h]
  rfl

theorem exists_isAccepted_of_readInteger {cs : List Char} {v : Int64}
    (h : readInteger cs = some v) : ∃ n, IsAccepted n cs ∧ signed? false n = some v := by
  rw [readInteger_eq] at h
  obtain ⟨n, hn, hv⟩ := Option.bind_eq_some_iff.1 h
  exact ⟨n, isAccepted_iff.2 hn, hv⟩

theorem map_toInt_signed? (n : Nat) :
    (signed? false n).map Int64.toInt = if n ≤ 2 ^ 63 - 1 then some (n : Int) else none := by
  rw [signed?, if_neg Bool.false_ne_true, signBound]
  split <;> split
  · rw [Option.map_some, Int64.toInt_ofNat_of_lt (by omega)]
  · omega
  · omega
  · rfl

theorem quoted?_eq_none {cs : List Char}
    (h : ¬ (cs.head? = some '\'' ∧ cs.getLast? = some '\'')) : quoted? cs = none := by
  unfold quoted?
  split
  · next rest =>
    rw [if_neg]
    intro hlast
    rw [List.getLast?_cons, hlast] at h
    exact h ⟨rfl, rfl⟩
  · rfl

theorem value?_of_not_quoted {text : String}
    (h : ¬ ((trimChars text.toList).head? = some '\'' ∧
      (trimChars text.toList).getLast? = some '\'')) :
    value? text = readInteger (trimChars text.toList) := by
  rw [value?, quoted?_eq_none h]

/-- No literal begins with an apostrophe, whereas a character in quotes does. -/
theorem IsLiteral.head?_ne {n : Nat} {cs : List Char} (h : IsLiteral n cs) :
    cs.head? ≠ some '\'' := by
  obtain ⟨hspells, -⟩ := h
  have hseparated : ∀ {radix ds text suffix}, radix ≤ 16 → Separated radix ds text →
      (text ++ suffix).head? ≠ some '\'' := by
    intro radix ds text suffix hradix htext
    rw [List.head?_append_of_ne_nil _ htext.ne_nil]
    exact htext.head?_ne hradix
  cases hspells with
  | decimal hcs => exact hseparated (by decide) hcs
  | octal hcs => exact hseparated (by decide) hcs
  | hexadecimal | binary =>
    intro hhead
    cases hhead

/-- A literal between blanks. -/
theorem value?_eq_signed? {n : Nat} {before cs after : List Char} (h : IsLiteral n cs)
    (hbefore : ∀ c ∈ before, isBlank c = true) (hafter : ∀ c ∈ after, isBlank c = true) :
    value? (String.ofList (before ++ cs ++ after)) = signed? false n := by
  have htrim : trimChars (String.ofList (before ++ cs ++ after)).toList = cs := by
    rw [String.toList_ofList]
    exact trimChars_append hbefore h.isAccepted.isBlank_eq_false hafter
  rw [value?_of_not_quoted, htrim]
  · exact readInteger_of_isAccepted h.isAccepted
  · rw [htrim]
    exact fun hquote => h.head?_ne hquote.1

/-- **Every integer literal is read with its value.**

Let a text be a literal of a number: digits in decimal without a leading zero, in hexadecimal behind
`0x` or `0X`, in octal behind `0`, or in binary behind `0b` or `0B`, with an apostrophe between any
two of them, and behind them any of the letters `u`, `U`, `l` and `L`. Between any blanks it is read
as the number, and it has no value exactly if the number exceeds 2^63 - 1. -/
theorem value?_of_isLiteral {n : Nat} {cs : List Char} (h : IsLiteral n cs)
    {before after : List Char} (hbefore : ∀ c ∈ before, isBlank c = true)
    (hafter : ∀ c ∈ after, isBlank c = true) :
    (value? (String.ofList (before ++ cs ++ after))).map Int64.toInt =
      if n ≤ 2 ^ 63 - 1 then some (n : Int) else none := by
  rw [value?_eq_signed? h hbefore hafter, map_toInt_signed?]

/-- The literal `0X1'fFul` between blanks is read as 511, and one of 64 bits has no value. -/
theorem value?_of_isLiteral_hexadecimal :
    IsLiteral 511 "0X1'fFul".toList ∧ (∀ c ∈ [' '], isBlank c = true) ∧
    (∀ c ∈ ['\t', '\n'], isBlank c = true) ∧
    (value? " 0X1'fFul\t\n").map Int64.toInt = some 511 ∧
    IsLiteral (2 ^ 64 - 1) "0xFFFFFFFFFFFFFFFF".toList ∧
    (value? "0xFFFFFFFFFFFFFFFF").map Int64.toInt = none := by
  have hdigits : Separated 16 [1, 15, 15] ['1', '\'', 'f', 'F'] :=
    .apostrophe ⟨by decide, .inl rfl⟩ (.digit ⟨by decide, .inl rfl⟩ (.last ⟨by decide, .inr rfl⟩))
  have hsuffix : ∀ c ∈ ['u', 'l'], c ∈ suffixLetters := by simp [suffixLetters]
  have hfits : IsLiteral 511 "0X1'fFul".toList := .intro (.hexadecimal (.inr rfl) hdigits) hsuffix
  have hlarge : IsLiteral (2 ^ 64 - 1) "0xFFFFFFFFFFFFFFFF".toList :=
    (isLiteral_iff_of_isAccepted (isAccepted_iff.2 (by decide))).2 (by decide)
  have hfront : ∀ c ∈ [' '], isBlank c = true := List.forall_mem_singleton.2 rfl
  have hback : ∀ c ∈ ['\t', '\n'], isBlank c = true :=
    List.forall_mem_cons.2 ⟨rfl, List.forall_mem_singleton.2 rfl⟩
  have hvalue := value?_of_isLiteral hfits hfront hback
  have hnone := value?_of_isLiteral hlarge (List.forall_mem_nil _) (List.forall_mem_nil _)
  rw [if_pos (by decide)] at hvalue
  rw [if_neg (by decide)] at hnone
  exact ⟨hfits, hfront, hback, hvalue, hlarge, hnone⟩

/-- **What is read is a literal, but for a plus sign and stray apostrophes.**

A text with a value that is not in quotes consists of digits of the announced radix, with
apostrophes and perhaps a plus sign, and of a suffix; no other character occurs in it between its
blanks. Its value is the number of these digits. It is a literal of this number exactly if there is
no plus sign, and no apostrophe in front of the first digit, behind the last one or beside another
one. -/
theorem isLiteral_of_value?_iff {text : String} {v : Int64} (h : value? text = some v)
    (hquote : ¬ ((trimChars text.toList).head? = some '\'' ∧
      (trimChars text.toList).getLast? = some '\'')) :
    ∃ n : Nat, v.toInt = n ∧ IsAccepted n (trimChars text.toList) ∧
      (IsLiteral n (trimChars text.toList) ↔
        '+' ∉ trimChars text.toList ∧ ¬ HasStrayApostrophe (trimChars text.toList)) := by
  rw [value?_of_not_quoted hquote] at h
  obtain ⟨n, haccepted, hv⟩ := exists_isAccepted_of_readInteger h
  have hint := map_toInt_signed? n
  rw [hv, Option.map_some] at hint
  refine ⟨n, ?_, haccepted, isLiteral_iff_of_isAccepted haccepted⟩
  split at hint
  · exact Option.some.inj hint
  · cases hint

/-- `1'000uL` is read as a literal of a thousand. -/
theorem isLiteral_of_value?_thousand :
    value? "1'000uL" = some 1000 ∧
    ¬ ((trimChars "1'000uL".toList).head? = some '\'' ∧
      (trimChars "1'000uL".toList).getLast? = some '\'') ∧
    ∃ n : Nat, (1000 : Int64).toInt = n ∧ IsLiteral n (trimChars "1'000uL".toList) := by
  have hvalue : value? "1'000uL" = some 1000 := by rfl
  have hquote : ¬ ((trimChars "1'000uL".toList).head? = some '\'' ∧
      (trimChars "1'000uL".toList).getLast? = some '\'') := by decide
  obtain ⟨n, hn, -, hiff⟩ := isLiteral_of_value?_iff hvalue hquote
  exact ⟨hvalue, hquote, n, hn, hiff.2 (by decide)⟩

/-- `+5` has the value 5, although no literal has a sign. -/
theorem plus_five_not_isLiteral :
    value? "+5" = some 5 ∧
    ¬ ((trimChars "+5".toList).head? = some '\'' ∧ (trimChars "+5".toList).getLast? = some '\'') ∧
    ¬ ∃ n, IsLiteral n (trimChars "+5".toList) := by
  refine ⟨by rfl, by decide, ?_⟩
  rintro ⟨n, hliteral⟩
  exact hliteral.not_plus_mem (by decide)

/-- An apostrophe behind the last digit is passed over as well. -/
example : value? "1'" = some 1 ∧ HasStrayApostrophe "1'".toList := by decide

end HeaderBindings.IntLiteral
