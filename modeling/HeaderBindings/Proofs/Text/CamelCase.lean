import HeaderBindings.Proofs.Text.UpperCase
import HeaderBindings.Text.CamelCase

/-!
# Laws of camel case

A text in camel case holds no underscore at all: it is cut at its underscores, and no character in
the whole of Unicode has an upper case in which one occurs. For the same reason camel case goes
segment by segment: an underscore between two texts has no effect but to make each of them start
with a capital. A text in camel case is one segment, and since its first letter is the upper case of
a letter, it is not changed again (`camelCase_homomorphism`).
-/

namespace HeaderBindings.Text

/-! ### No underscores -/

/-- **No upper case holds an underscore**, but that of the underscore itself. -/
theorem underscore_not_mem_upper {c : Char} (hc : c ≠ '_') : '_' ∉ upper c := by
  have hunderscore : '_'.toNat ∉ Case.upperTargets.flatten := by
    rw [← Case.testBit_bitsOfAll]
    decide +kernel
  intro h
  rcases upper_eq_or_mem_targets h with hself | htarget
  · rw [hself, List.mem_singleton] at h
    exact hc h.symm
  · exact hunderscore htarget

theorem underscore_not_mem_upperFirst {cs : List Char} (h : '_' ∉ cs) : '_' ∉ upperFirst cs := by
  cases cs with
  | nil => exact h
  | cons c cs =>
    rw [List.mem_cons, not_or] at h
    rw [upperFirst, List.mem_append, not_or]
    exact ⟨underscore_not_mem_upper (Ne.symm h.1), h.2⟩

theorem underscore_not_mem_camelCaseChars (cs : List Char) : '_' ∉ camelCaseChars cs := by
  intro h
  obtain ⟨word, hword, h⟩ := List.mem_flatten.1 h
  obtain ⟨piece, hpiece, rfl⟩ := List.mem_map.1 hword
  refine underscore_not_mem_upperFirst ?_ h
  intro hmem
  have hcut := not_of_mem_splitAtEvery hpiece '_' hmem
  simp at hcut

/-- **A text in camel case holds no underscore.** -/
theorem underscore_not_mem_camelCase (s : String) : '_' ∉ (camelCase s).toList := by
  rw [camelCase, String.toList_ofList]
  exact underscore_not_mem_camelCaseChars s.toList

/-! ### Segments -/

theorem camelCaseChars_append (as bs : List Char) :
    camelCaseChars (as ++ '_' :: bs) = camelCaseChars as ++ camelCaseChars bs := by
  have hcut : splitAtEvery (· = '_') (as ++ '_' :: bs) =
      splitAtEvery (· = '_') as ++ splitAtEvery (· = '_') bs :=
    splitAtEvery_append (by simp) as bs
  rw [camelCaseChars, hcut, List.map_append, List.flatten_append, camelCaseChars, camelCaseChars]

/-- A text without underscores is a single segment. -/
theorem camelCaseChars_of_not_mem {cs : List Char} (h : '_' ∉ cs) :
    camelCaseChars cs = upperFirst cs := by
  have hcut : splitAtEvery (· = '_') cs = [cs] := by
    apply splitAtEvery_eq_singleton
    intro c hc
    rw [decide_eq_false_iff_not]
    rintro rfl
    exact h hc
  rw [camelCaseChars, hcut, List.map_singleton, List.flatten_singleton]

/-! ### Capitals -/

/-- What starts with a capital keeps it, also where the capital of its first letter is more than one
letter. -/
theorem upperFirst_upperFirst (cs : List Char) : upperFirst (upperFirst cs) = upperFirst cs := by
  cases cs with
  | nil => rfl
  | cons c cs =>
    cases hupper : upper c with
    | nil => exact absurd hupper (upper_ne_nil c)
    | cons d ds =>
      have hd : upper d = [d] := by
        apply upper_of_mem_upper
        rw [hupper]
        exact List.mem_cons_self
      rw [upperFirst, hupper, List.cons_append, upperFirst, hd, List.singleton_append]

theorem upperFirst_append {as bs : List Char} (has : upperFirst as = as)
    (hbs : upperFirst bs = bs) : upperFirst (as ++ bs) = as ++ bs := by
  cases as with
  | nil => exact hbs
  | cons a as =>
    rw [upperFirst] at has
    rw [List.cons_append, upperFirst, ← List.append_assoc, has, List.cons_append]

/-- Only the first segment that is not empty decides how a text in camel case starts. -/
theorem upperFirst_camelCaseChars (cs : List Char) :
    upperFirst (camelCaseChars cs) = camelCaseChars cs := by
  unfold camelCaseChars
  induction splitAtEvery (· = '_') cs with
  | nil => rfl
  | cons piece pieces ih =>
    rw [List.map_cons, List.flatten_cons]
    exact upperFirst_append (upperFirst_upperFirst piece) ih

/-! ### Texts -/

/-- **Camel case is a homomorphism that removes underscores.**

Two texts with an underscore between them are put in camel case one by one, the result holds no
underscore, and it is in camel case already. -/
theorem camelCase_homomorphism (a b : String) :
    camelCase (a ++ "_" ++ b) = camelCase a ++ camelCase b ∧
    '_' ∉ (camelCase a).toList ∧
    camelCase (camelCase a) = camelCase a := by
  refine ⟨?_, underscore_not_mem_camelCase a, ?_⟩
  · have hlist : (a ++ "_" ++ b).toList = a.toList ++ '_' :: b.toList := by
      simp
    rw [camelCase, hlist, camelCaseChars_append, String.ofList_append, camelCase, camelCase]
  · calc camelCase (camelCase a)
        = String.ofList (camelCaseChars (camelCaseChars a.toList)) := by
          rw [camelCase, camelCase, String.toList_ofList]
      _ = String.ofList (upperFirst (camelCaseChars a.toList)) := by
          rw [camelCaseChars_of_not_mem (underscore_not_mem_camelCaseChars a.toList)]
      _ = camelCase a := by
          rw [upperFirst_camelCaseChars, camelCase]

-- the ligature and the sharp s have two capitals each, and the next letters keep their case
example : camelCase "ﬁle__ßa_X" = "FIleSSaX" := by decide +kernel

end HeaderBindings.Text
