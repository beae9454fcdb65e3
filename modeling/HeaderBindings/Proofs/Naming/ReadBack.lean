import HeaderBindings.Proofs.Naming.WrittenNames

/-!
# Names of functions that are read back

A name that has been read is read again from its text. Other names are read back from their texts
exactly if the text shows where the receiver begins and ends: the receiver neither starts with a
star nor holds a `).`, and a name without a receiver does not look like one with a receiver
(`ofString_render_iff`).
-/

namespace HeaderBindings

/-! ### Where a text is cut -/

namespace Text

/-- **There is nothing to cut exactly if the separator does not occur.** -/
theorem cutAt?_eq_none_iff {sep cs : List Char} : cutAt? sep cs = none ↔ ¬ sep <:+: cs := by
  induction cs with
  | nil =>
    rw [cutAt?, List.infix_nil]
    split <;> simp_all
  | cons c cs ih =>
    rw [cutAt?, List.infix_cons_iff, not_or, ← List.isPrefixOf_iff_prefix]
    split
    · next hp => simp [hp]
    · next hp => simp [hp, ih]

/-- A text is cut at a place where the separator stands. -/
theorem eq_append_of_cutAt? {sep cs front back : List Char}
    (h : cutAt? sep cs = some (front, back)) : cs = front ++ (sep ++ back) := by
  induction cs generalizing front with
  | nil =>
    rw [cutAt?] at h
    split at h
    · next hsep =>
      cases h
      simp [hsep]
    · cases h
  | cons c cs ih =>
    rw [cutAt?] at h
    split at h
    · next hp =>
      cases h
      obtain ⟨back, hback⟩ := List.isPrefixOf_iff_prefix.1 hp
      rw [← hback, List.drop_left, List.nil_append]
    · obtain ⟨⟨front', back'⟩, hcut, heq⟩ := Option.map_eq_some_iff.1 h
      cases heq
      rw [ih hcut, List.cons_append]

/-- A text is cut at the first place where the separator stands. -/
theorem not_infix_of_cutAt? {sep cs front back : List Char} (hsep : sep ≠ [])
    (h : cutAt? sep cs = some (front, back)) : ¬ sep <:+: front := by
  induction cs generalizing front with
  | nil =>
    rw [cutAt?, if_neg hsep] at h
    cases h
  | cons c cs ih =>
    rw [cutAt?] at h
    split at h
    · cases h
      rwa [List.infix_nil]
    · next hp =>
      obtain ⟨⟨front', back'⟩, hcut, heq⟩ := Option.map_eq_some_iff.1 h
      cases heq
      rw [List.infix_cons_iff, not_or]
      refine ⟨fun hfront => hp ?_, ih hcut⟩
      rw [List.isPrefixOf_iff_prefix, eq_append_of_cutAt? hcut]
      exact hfront.trans (List.prefix_append (c :: front') (sep ++ back'))

end Text

namespace FunctionName

/-! ### Receivers -/

/-- A receiver that can be told apart from what stands around it. -/
def IsReceiver (receiver : String) : Prop :=
  receiver.toList.head? ≠ some '*' ∧ ¬ [')', '.'] <:+: receiver.toList

/-- A text that looks like the name of a method: a parenthesis, and a `).` behind it. -/
def LooksLikeMethod (name : String) : Prop :=
  ∃ rest, name.toList = '(' :: rest ∧ [')', '.'] <:+: rest

theorem upToClose_of_no_close {cs : List Char} (h : ¬ [')', '.'] <:+: cs) :
    upToClose cs = cs := by
  fun_induction upToClose cs with
  | case1 => rfl
  | case2 cs => exact absurd ⟨[], cs, rfl⟩ h
  | case3 c cs _ ih => rw [ih fun hcs => h (List.infix_cons hcs)]

/-- **What is read as a receiver can be told apart**, whatever the text. -/
theorem isReceiver_of_ofString {full receiver : String}
    (h : (ofString full).receiver = some receiver) : IsReceiver receiver := by
  unfold ofString at h
  split at h
  · next rest hfull =>
    split at h
    · next front back hcut =>
      cases h
      constructor
      · rw [String.toList_ofList]
        intro hhead
        have hstar := List.head?_dropWhile_not (· = '*') front
        rw [hhead] at hstar
        exact absurd (hstar : decide ('*' = '*') = false) (by simp)
      · rw [String.toList_ofList]
        intro hclose
        have hfront := hclose.trans (List.dropWhile_suffix (· = '*')).isInfix
        exact Text.not_infix_of_cutAt? (List.cons_ne_nil _ _) hcut hfront
    · cases h
  · cases h

/-- **The name of a method is read back if its receiver can be told apart.** -/
theorem ofString_render_of_isReceiver {receiver : String} (h : IsReceiver receiver)
    (name : String) : ofString (render ⟨some receiver, name⟩) = ⟨some receiver, name⟩ := by
  have hclose : ¬ [')', '.'] <:+: '*' :: receiver.toList := by
    rw [List.infix_cons_iff, not_or]
    exact ⟨by simp, h.2⟩
  obtain ⟨back, hcut⟩ := cutAt?_close ('*' :: receiver.toList) name.toList
  rw [upToClose_of_no_close hclose] at hcut
  -- what follows the receiver is the name, since both stand behind the same text
  have happend := Text.eq_append_of_cutAt? hcut
  obtain rfl : name.toList = back := by simpa using happend
  have hstar : ('*' :: receiver.toList).dropWhile (· = '*') = receiver.toList := by
    rw [List.dropWhile_cons, if_pos (decide_eq_true rfl)]
    cases hcs : receiver.toList with
    | nil => rfl
    | cons c cs =>
      have hc : c ≠ '*' := fun heq => h.1 (by rw [hcs, heq]; rfl)
      rw [List.dropWhile_cons, if_neg (by simpa using hc)]
  rw [ofString_of_cutAt? (toList_render receiver name) hcut, hstar, String.ofList_toList,
    String.ofList_toList]

theorem exists_ofString_of_looksLikeMethod {full : String} (h : LooksLikeMethod full) :
    ∃ receiver name, ofString full = ⟨some receiver, name⟩ := by
  obtain ⟨rest, hfull, hclose⟩ := h
  cases hcut : Text.cutAt? [')', '.'] rest with
  | none => exact absurd hclose (Text.cutAt?_eq_none_iff.1 hcut)
  | some cut => exact ⟨_, _, ofString_of_cutAt? hfull hcut⟩

theorem ofString_of_not_looksLikeMethod {full : String} (h : ¬ LooksLikeMethod full) :
    ofString full = ⟨none, full⟩ := by
  unfold ofString
  split
  · next rest hfull =>
    have hcut : Text.cutAt? [')', '.'] rest = none :=
      Text.cutAt?_eq_none_iff.2 fun hclose => h ⟨rest, hfull, hclose⟩
    rw [hcut]
  · rfl

/-! ### Names that are read back -/

/-- The text of a name shows whether it has a receiver, and where this begins and ends. -/
def IsShown (f : FunctionName) : Prop :=
  (∃ receiver, f.receiver = some receiver ∧ IsReceiver receiver) ∨
  f.receiver = none ∧ ¬ LooksLikeMethod f.name

theorem isShown_ofString (full : String) : IsShown (ofString full) := by
  by_cases hmethod : LooksLikeMethod full
  · obtain ⟨receiver, name, heq⟩ := exists_ofString_of_looksLikeMethod hmethod
    have hreceiver : (ofString full).receiver = some receiver := by rw [heq]
    exact .inl ⟨receiver, hreceiver, isReceiver_of_ofString hreceiver⟩
  · rw [ofString_of_not_looksLikeMethod hmethod]
    exact .inr ⟨rfl, hmethod⟩

theorem ofString_render_of_isShown {f : FunctionName} (h : IsShown f) :
    ofString f.render = f := by
  obtain ⟨receiver, name⟩ := f
  obtain ⟨receiver, rfl, hreceiver⟩ | ⟨rfl, hplain⟩ := h
  · exact ofString_render_of_isReceiver hreceiver name
  · exact ofString_of_not_looksLikeMethod hplain

/-- **Names are read back exactly if their texts show them.**

What has been read from any text is read again from its own text. And a name, however it was made,
is read back from its text if and only if it has a receiver that neither starts with a star nor
holds a `).`, or it has none and does not look like the name of a method. -/
theorem ofString_render_iff :
    (∀ text, ofString (ofString text).render = ofString text) ∧
    ∀ f, ofString f.render = f ↔
      (∃ receiver, f.receiver = some receiver ∧
        receiver.toList.head? ≠ some '*' ∧ ¬ [')', '.'] <:+: receiver.toList) ∨
      f.receiver = none ∧ ¬ ∃ rest, f.name.toList = '(' :: rest ∧ [')', '.'] <:+: rest := by
  refine ⟨fun text => ofString_render_of_isShown (isShown_ofString text), fun f => ⟨?_, ?_⟩⟩
  · intro h
    rw [← h]
    exact isShown_ofString f.render
  · exact ofString_render_of_isShown

-- a receiver may end with a parenthesis, which then stands in front of the `).` that is looked for
example : ofString "(**Pair)).Swap(x).y" = ⟨some "Pair)", "Swap(x).y"⟩ := by decide

end FunctionName

end HeaderBindings
