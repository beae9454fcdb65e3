/-!
# Cutting and joining

Cutting a list at every element of a kind or at the first place where a text occurs, putting one
text in the place of another, and joining texts with a separator.
-/

namespace HeaderBindings.Text

/-- Cuts a list at every element that satisfies `p`; the pieces may be empty, and there is always
one more of them than there are cuts. -/
def splitAtEvery {α : Type} (p : α → Bool) : List α → List (List α)
  | [] => [[]]
  | a :: as =>
    if p a then [] :: splitAtEvery p as
    else
      match splitAtEvery p as with
      | [] => [[a]]
      | piece :: pieces => (a :: piece) :: pieces

/-- Cuts a list at the first place where `sep` occurs. The second part is what follows it. -/
def cutAt? (sep : List Char) : List Char → Option (List Char × List Char)
  | [] => if sep = [] then some ([], []) else none
  | c :: cs =>
    if sep.isPrefixOf (c :: cs) then some ([], (c :: cs).drop sep.length)
    else (cutAt? sep cs).map fun p => (c :: p.1, p.2)

/-- Puts `new` in the place of every occurrence of `old`, from left to right and without overlap,
after passing over the first `skip` characters. -/
def substituteFrom (old new : List Char) : Nat → List Char → List Char
  | _, [] => []
  | skip + 1, _ :: cs => substituteFrom old new skip cs
  | 0, c :: cs =>
    if old.isPrefixOf (c :: cs) then new ++ substituteFrom old new (old.length - 1) cs
    else c :: substituteFrom old new 0 cs

/-- The text with `new` in the place of every occurrence of `old`, which is not empty. -/
def substitute (s old new : String) : String :=
  String.ofList (substituteFrom old.toList new.toList 0 s.toList)

def afterStart? (start s : String) : Option String :=
  if start.toList.isPrefixOf s.toList then some (String.ofList (s.toList.drop start.length))
  else none

def joined (sep : String) : List String → String
  | [] => ""
  | [s] => s
  | s :: rest => s ++ sep ++ joined sep rest

/-! ### What cutting keeps -/

theorem splitAtEvery_ne_nil {α : Type} (p : α → Bool) (as : List α) : splitAtEvery p as ≠ [] := by
  cases as with
  | nil => simp [splitAtEvery]
  | cons a as =>
    simp only [splitAtEvery]
    split
    · simp
    · split <;> simp

/-- No piece holds an element at which the list is cut. -/
theorem not_of_mem_splitAtEvery {α : Type} {p : α → Bool} :
    ∀ {as : List α} {piece}, piece ∈ splitAtEvery p as → ∀ a ∈ piece, p a = false
  | [], piece, h, a, ha => by
    simp only [splitAtEvery, List.mem_singleton] at h
    simp [h] at ha
  | b :: as, piece, h, a, ha => by
    simp only [splitAtEvery] at h
    split at h
    · rcases List.mem_cons.1 h with rfl | h
      · simp at ha
      · exact not_of_mem_splitAtEvery h a ha
    · next hb =>
      split at h
      · next hn => exact absurd hn (splitAtEvery_ne_nil p as)
      · next q qs hq =>
        rcases List.mem_cons.1 h with rfl | h
        · rcases List.mem_cons.1 ha with rfl | ha
          · simpa using hb
          · exact not_of_mem_splitAtEvery (hq ▸ List.mem_cons_self) a ha
        · exact not_of_mem_splitAtEvery (hq ▸ List.mem_cons_of_mem _ h) a ha

/-- A list without an element at which it is cut is its only piece. -/
theorem splitAtEvery_eq_singleton {α : Type} {p : α → Bool} {as : List α}
    (h : ∀ a ∈ as, p a = false) : splitAtEvery p as = [as] := by
  induction as with
  | nil => rfl
  | cons a as ih =>
    rw [List.forall_mem_cons] at h
    rw [splitAtEvery, ih h.2, h.1, if_neg Bool.false_ne_true]

/-- At an element of the kind, what stands in front of it and what follows it are cut apart. -/
theorem splitAtEvery_append {α : Type} {p : α → Bool} {a : α} (ha : p a) (as bs : List α) :
    splitAtEvery p (as ++ a :: bs) = splitAtEvery p as ++ splitAtEvery p bs := by
  induction as with
  | nil =>
    show splitAtEvery p (a :: bs) = [] :: splitAtEvery p bs
    rw [splitAtEvery, if_pos ha]
  | cons b as ih =>
    rw [List.cons_append, splitAtEvery, ih, splitAtEvery]
    split
    · rfl
    · cases hpieces : splitAtEvery p as with
      | nil => exact absurd hpieces (splitAtEvery_ne_nil p as)
      | cons piece pieces => rfl

end HeaderBindings.Text
