import HeaderBindings.Text.Case

/-!
# The upper case of upper case

Every character that occurs in the upper case of a character is its own upper case
(`upper_of_mem_upper`). This is a fact about the tables as a whole: no code point that a character
is mapped to is itself mapped. To compare the thousands of code points on either side, both sides
are written as the bits of one number, and the two numbers have no bit in common.
-/

namespace HeaderBindings.Text

namespace Case

/-! ### Sets of numbers as bits -/

/-- The number whose bits are the members of a list. -/
def bits (ns : List Nat) : Nat := ns.foldr (fun n mask => 1 <<< n ||| mask) 0

theorem testBit_bits {ns : List Nat} {n : Nat} : (bits ns).testBit n ↔ n ∈ ns := by
  induction ns with
  | nil => simp [bits]
  | cons m ns ih =>
    show (1 <<< m ||| bits ns).testBit n ↔ n ∈ m :: ns
    rw [Nat.testBit_or, Bool.or_eq_true, ih, Nat.one_shiftLeft, Nat.testBit_two_pow,
      decide_eq_true_iff, List.mem_cons, eq_comm]

/-- The bits of several lists. They are put together list by list: an evaluation then nests only as
deep as there are lists, or members of a list. -/
def bitsOfAll (lists : List (List Nat)) : Nat := lists.foldr (fun ns mask => bits ns ||| mask) 0

theorem testBit_bitsOfAll {lists : List (List Nat)} {n : Nat} :
    (bitsOfAll lists).testBit n ↔ n ∈ lists.flatten := by
  induction lists with
  | nil => simp [bitsOfAll]
  | cons ns lists ih =>
    show (bits ns ||| bitsOfAll lists).testBit n ↔ n ∈ (ns :: lists).flatten
    rw [Nat.testBit_or, Bool.or_eq_true, testBit_bits, ih, List.flatten_cons, List.mem_append]

theorem not_mem_of_land_eq_zero {left right : List (List Nat)}
    (h : bitsOfAll left &&& bitsOfAll right = 0) {n : Nat} (hright : n ∈ right.flatten) :
    n ∉ left.flatten := by
  intro hleft
  have hboth : (bitsOfAll left &&& bitsOfAll right).testBit n := by
    rw [Nat.testBit_and, testBit_bitsOfAll.2 hleft, testBit_bitsOfAll.2 hright, Bool.and_self]
  rw [h, Nat.zero_testBit] at hboth
  cases hboth

/-! ### Ranges -/

namespace MapRange

/-- The distances of the members of a range from its first one. -/
def offsets (r : MapRange) : List Nat :=
  (List.range (r.last - r.first + 1)).filter (· % r.stride = 0)

/-- The code points that a range maps. -/
def sources (r : MapRange) : List Nat := r.offsets.map (r.first + ·)

/-- The code points that a range maps to. -/
def targets (r : MapRange) : List Nat := r.offsets.map (r.target + ·)

theorem mem_of_image? {r : MapRange} {n target : Nat} (h : r.image? n = some target) :
    n ∈ r.sources ∧ target ∈ r.targets := by
  unfold image? at h
  split at h
  · next hmem =>
    obtain ⟨hfirst, hlast, hstride⟩ := hmem
    have hoffset : n - r.first ∈ r.offsets := by
      rw [offsets, List.mem_filter, List.mem_range, decide_eq_true_iff]
      exact ⟨by omega, hstride⟩
    exact ⟨List.mem_map.2 ⟨_, hoffset, by omega⟩, List.mem_map.2 ⟨_, hoffset, Option.some.inj h⟩⟩
  · cases h

end MapRange

/-! ### The tables -/

/-- The code points that have an entry in the tables of upper case. -/
def upperSources : List (List Nat) :=
  upperExpansions.map (·.1) :: upperRanges.map MapRange.sources

/-- The code points to which those entries lead. -/
def upperTargets : List (List Nat) :=
  upperExpansions.map (·.2) ++ upperRanges.map MapRange.targets

theorem mem_sources_of_expansion {e : Nat × List Nat} (h : e ∈ upperExpansions) :
    e.1 ∈ upperSources.flatten :=
  List.mem_flatten.2 ⟨_, List.mem_cons_self, List.mem_map_of_mem h⟩

theorem mem_targets_of_expansion {e : Nat × List Nat} (h : e ∈ upperExpansions) {n : Nat}
    (hn : n ∈ e.2) : n ∈ upperTargets.flatten :=
  List.mem_flatten.2 ⟨e.2, List.mem_append_left _ (List.mem_map_of_mem h), hn⟩

theorem mem_of_range {r : MapRange} (h : r ∈ upperRanges) {n target : Nat}
    (himage : r.image? n = some target) :
    n ∈ upperSources.flatten ∧ target ∈ upperTargets.flatten := by
  obtain ⟨hsource, htarget⟩ := MapRange.mem_of_image? himage
  exact ⟨List.mem_flatten.2 ⟨_, List.mem_cons_of_mem _ (List.mem_map_of_mem h), hsource⟩,
    List.mem_flatten.2 ⟨_, List.mem_append_right _ (List.mem_map_of_mem h), htarget⟩⟩

/-- **No code point that is mapped to is itself mapped.** -/
theorem not_mem_sources_of_mem_targets {n : Nat} (h : n ∈ upperTargets.flatten) :
    n ∉ upperSources.flatten := by
  apply not_mem_of_land_eq_zero ?_ h
  decide +kernel

/-- The tables lead to characters only. -/
theorem isValidChar_of_mem_targets : ∀ n ∈ upperTargets.flatten, n.isValidChar := by
  decide +kernel

end Case

/-! ### Characters -/

/-- Where the upper case of a character comes from: a table, or the character itself. -/
theorem upper_cases (c : Char) :
    (∃ e ∈ Case.upperExpansions, e.1 = c.toNat ∧ upper c = e.2.map Char.ofNat) ∨
    (∃ r ∈ Case.upperRanges, ∃ target, r.image? c.toNat = some target ∧
      upper c = [Char.ofNat target]) ∨
    upper c = [c] := by
  unfold upper Case.image
  split
  · next targets hlookup =>
    obtain ⟨before, after, heq, -⟩ := List.lookup_eq_some_iff.1 hlookup
    left
    exact ⟨(c.toNat, targets), heq ▸ List.mem_append_right before List.mem_cons_self, rfl, rfl⟩
  · right
    split
    · next target hfind =>
      obtain ⟨r, hr, himage⟩ := List.exists_of_findSome?_eq_some hfind
      left
      exact ⟨r, hr, target, himage, rfl⟩
    · right
      rfl

variable {c d : Char}

/-- A character without an entry in the tables is its own upper case. -/
theorem upper_of_not_mem_sources (h : c.toNat ∉ Case.upperSources.flatten) : upper c = [c] := by
  rcases upper_cases c with ⟨e, he, heq, -⟩ | ⟨r, hr, target, himage, -⟩ | hself
  · exact absurd (heq ▸ Case.mem_sources_of_expansion he) h
  · exact absurd (Case.mem_of_range hr himage).1 h
  · exact hself

theorem toNat_ofNat_mem_targets {n : Nat} (h : n ∈ Case.upperTargets.flatten) :
    (Char.ofNat n).toNat ∈ Case.upperTargets.flatten := by
  have hnat : (Char.ofNat n).toNat = n := by
    rw [Char.ofNat, dif_pos (Case.isValidChar_of_mem_targets n h)]
    rfl
  rwa [hnat]

/-- What stands in the upper case of a character is that character or comes from the tables. -/
theorem upper_eq_or_mem_targets (h : d ∈ upper c) :
    upper c = [c] ∨ d.toNat ∈ Case.upperTargets.flatten := by
  rcases upper_cases c with ⟨e, he, -, hupper⟩ | ⟨r, hr, target, himage, hupper⟩ | hself
  · right
    obtain ⟨n, hn, rfl⟩ := List.mem_map.1 (hupper ▸ h)
    exact toNat_ofNat_mem_targets (Case.mem_targets_of_expansion he hn)
  · right
    rw [hupper, List.mem_singleton] at h
    rw [h]
    exact toNat_ofNat_mem_targets (Case.mem_of_range hr himage).2
  · left
    exact hself

/-- **Upper case is its own upper case**, character by character. -/
theorem upper_of_mem_upper (h : d ∈ upper c) : upper d = [d] := by
  rcases upper_eq_or_mem_targets h with hself | htarget
  · rw [hself, List.mem_singleton] at h
    rw [h, hself]
  · exact upper_of_not_mem_sources (Case.not_mem_sources_of_mem_targets htarget)

theorem upper_ne_nil (c : Char) : upper c ≠ [] := by
  have hexpansions : ∀ e ∈ Case.upperExpansions, e.2 ≠ [] := by decide +kernel
  rcases upper_cases c with ⟨e, he, -, hupper⟩ | ⟨r, -, target, -, hupper⟩ | hself
  · rw [hupper, Ne, List.map_eq_nil_iff]
    exact hexpansions e he
  · simp [hupper]
  · simp [hself]

end HeaderBindings.Text
