import HeaderBindings.Naming.FunctionName
import HeaderBindings.Naming.NameCounter
import HeaderBindings.Naming.PrefixRules
import Mathlib.Data.List.TakeWhile

/-!
# Names of functions, written and read

The name of a method is written as `(*Receiver).Name`, gets a suffix if it is taken, and is read
again when it is bound. The receiver that is read depends on the receiver that was written and on
nothing else (`receiver_ofString_form`), and it is the same one unless it holds what separates a
receiver from a name.

The last part is about names that are made, not read: rules that replace every prefix by nothing
give functions and types the same name (`PrefixRules.functionName_eq_typeName`), since what tells
the two apart is only what is put in the place of a prefix.
-/

namespace HeaderBindings

/-- A name without the characters around receivers. -/
def IsPlainName (name : String) : Prop := ∀ c ∈ name.toList, c ≠ '(' ∧ c ≠ ')' ∧ c ≠ '*'

instance (name : String) : Decidable (IsPlainName name) :=
  List.decidableBAll (fun c => c ≠ '(' ∧ c ≠ ')' ∧ c ≠ '*') name.toList

namespace FunctionName

/-- What stands in front of the first `).`, if there is one. -/
def upToClose : List Char → List Char
  | [] => []
  | ')' :: '.' :: _ => []
  | c :: cs => c :: upToClose cs

/-- What a written receiver is read as. -/
def readReceiver (receiver : String) : String :=
  String.ofList ((upToClose receiver.toList).dropWhile (· = '*'))

/-! ### Reading a receiver

A name with a receiver is cut at the first place where `).` stands, counted from the parenthesis at
the start. The text behind the receiver begins with these two characters, so the cut is no later
than that, and depends on the receiver only.
-/

/-- Whatever follows a receiver, it is cut off at the first `).`. -/
theorem cutAt?_close (cs rest : List Char) :
    ∃ back, Text.cutAt? [')', '.'] (cs ++ ')' :: '.' :: rest) = some (upToClose cs, back) := by
  fun_induction upToClose cs with
  | case1 => exact ⟨rest, by simp [Text.cutAt?]⟩
  | case2 cs => exact ⟨cs ++ ')' :: '.' :: rest, by simp [Text.cutAt?]⟩
  | case3 c cs hclose ih =>
    obtain ⟨back, hback⟩ := ih
    have hnot : [')', '.'].isPrefixOf (c :: (cs ++ ')' :: '.' :: rest)) = false := by
      cases cs with
      | nil => simp [List.isPrefixOf]
      | cons d cs =>
        by_cases hc : c = ')'
        · have hd : d ≠ '.' := fun hd => hclose cs hc (by rw [hd])
          simp [List.isPrefixOf, Ne.symm hd]
        · simp [List.isPrefixOf, Ne.symm hc]
    refine ⟨back, ?_⟩
    rw [List.cons_append, Text.cutAt?, hnot, if_neg Bool.false_ne_true, hback]
    rfl

theorem toList_render (receiver name : String) :
    (render ⟨some receiver, name⟩).toList =
      '(' :: (('*' :: receiver.toList) ++ ')' :: '.' :: name.toList) := by
  rw [render, String.toList_append, String.toList_append, String.toList_append]
  simp

/-- A name with a receiver that can be cut off. -/
theorem ofString_of_cutAt? {full : String} {rest receiver name : List Char}
    (hfull : full.toList = '(' :: rest)
    (hcut : Text.cutAt? [')', '.'] rest = some (receiver, name)) :
    ofString full = ⟨some (String.ofList (receiver.dropWhile (· = '*'))), String.ofList name⟩ := by
  unfold ofString
  split
  · next rest' heq =>
    cases hfull.symm.trans heq
    rw [hcut]
  · next hother => exact absurd hfull (hother rest)

/-- **The receiver that is read depends on the receiver alone.** -/
theorem receiver_ofString_render (receiver name : String) :
    (ofString (render ⟨some receiver, name⟩)).receiver = some (readReceiver receiver) := by
  obtain ⟨back, hback⟩ := cutAt?_close ('*' :: receiver.toList) name.toList
  have hstar : upToClose ('*' :: receiver.toList) = '*' :: upToClose receiver.toList := by
    simp [upToClose]
  have hdrop : ('*' :: upToClose receiver.toList).dropWhile (· = '*') =
      (upToClose receiver.toList).dropWhile (· = '*') := by
    simp
  rw [ofString_of_cutAt? (toList_render receiver name) hback, hstar, hdrop, readReceiver]

/-- A suffix of a method's name goes to the method. -/
theorem form_render (receiver name : String) (n : Nat) :
    NameCounter.form (render ⟨some receiver, name⟩) n =
      render ⟨some receiver, NameCounter.form name n⟩ := by
  cases n with
  | zero => rw [NameCounter.form, NameCounter.form]
  | succ n => simp only [NameCounter.form, render, String.append_assoc]

theorem receiver_ofString_form (receiver name : String) (n : Nat) :
    (ofString (NameCounter.form (render ⟨some receiver, name⟩) n)).receiver =
      some (readReceiver receiver) := by
  rw [form_render]
  exact receiver_ofString_render receiver _

/-! ### Plain names

If the receiver has no parenthesis, the cut is right behind it, and if it has no star, no star of
its own is taken for the one in front.
-/

theorem upToClose_of_plain {cs : List Char} (h : ∀ c ∈ cs, c ≠ ')') : upToClose cs = cs := by
  fun_induction upToClose cs with
  | case1 => rfl
  | case2 cs => exact absurd rfl (h ')' List.mem_cons_self)
  | case3 c cs _ ih => rw [ih fun d hd => h d (List.mem_cons_of_mem c hd)]

theorem dropWhile_star_of_plain {receiver : String} (h : IsPlainName receiver) :
    receiver.toList.dropWhile (· = '*') = receiver.toList := by
  rw [List.dropWhile_eq_self_iff]
  intro hl
  rw [decide_eq_true_iff]
  exact (h _ (List.getElem_mem hl)).2.2

/-- **A plain receiver is read as it is written.** -/
theorem readReceiver_of_plain {receiver : String} (h : IsPlainName receiver) :
    readReceiver receiver = receiver := by
  rw [readReceiver, upToClose_of_plain fun c hc => (h c hc).2.1, dropWhile_star_of_plain h,
    String.ofList_toList]

theorem cutAt?_of_plain {cs : List Char} (h : ∀ c ∈ cs, c ≠ ')') (rest : List Char) :
    Text.cutAt? [')', '.'] (cs ++ ')' :: '.' :: rest) = some (cs, rest) := by
  induction cs with
  | nil => simp [Text.cutAt?]
  | cons c cs ih =>
    have hc : c ≠ ')' := h c List.mem_cons_self
    have hnot : [')', '.'].isPrefixOf (c :: (cs ++ ')' :: '.' :: rest)) = false := by
      simp [List.isPrefixOf, Ne.symm hc]
    rw [List.cons_append, Text.cutAt?, hnot, if_neg Bool.false_ne_true,
      ih fun d hd => h d (List.mem_cons_of_mem c hd)]
    rfl

/-- A target name that is written as it is read. -/
def IsReadable (target : String) : Prop := (ofString target).render = target

/-- **The name of a method with a plain receiver is readable.** -/
theorem isReadable_render {receiver : String} (h : IsPlainName receiver) (name : String) :
    IsReadable (render ⟨some receiver, name⟩) := by
  have hclose : ∀ c ∈ '*' :: receiver.toList, c ≠ ')' := by
    intro c hc
    rcases List.mem_cons.1 hc with rfl | hc
    · decide
    · exact (h c hc).2.1
  have hcut := cutAt?_of_plain hclose name.toList
  have hstar : ('*' :: receiver.toList).dropWhile (· = '*') = receiver.toList := by
    rw [List.dropWhile_cons, if_pos (by simp), dropWhile_star_of_plain h]
  rw [IsReadable, ofString_of_cutAt? (toList_render receiver name) hcut, hstar,
    String.ofList_toList, String.ofList_toList]

/-- **A name that does not start with a parenthesis is readable.** -/
theorem isReadable_of_head? {name : String} (h : name.toList.head? ≠ some '(') :
    IsReadable name := by
  have hbare : ofString name = ⟨none, name⟩ := by
    unfold ofString
    split
    · next rest heq => exact absurd (congrArg List.head? heq) h
    · rfl
  rw [IsReadable, hbare]
  rfl

/-- A suffix does not change how a name starts. -/
theorem head?_form {name : String} (h : name.toList.head? ≠ some '(') (n : Nat) :
    (NameCounter.form name n).toList.head? ≠ some '(' := by
  cases n with
  | zero => exact h
  | succ n =>
    rw [NameCounter.form, String.toList_append, String.toList_append]
    cases hname : name.toList with
    | nil => simp
    | cons c cs =>
      rw [hname] at h
      simpa using h

end FunctionName

namespace PrefixRules

theorem rewriteFirst_congr {r : PrefixRules} {pick pick' : String → String}
    (h : ∀ rule ∈ r.rules, pick rule.2 = pick' rule.2) (name : String) :
    r.rewriteFirst pick name = r.rewriteFirst pick' name := by
  have hfind : ∀ rules : List (Prefix × String), (∀ rule ∈ rules, pick rule.2 = pick' rule.2) →
      rules.findSome? (fun rule => rule.1.rewrite? name (pick rule.2)) =
        rules.findSome? (fun rule => rule.1.rewrite? name (pick' rule.2)) := by
    intro rules hrules
    induction rules with
    | nil => rw [List.findSome?_nil, List.findSome?_nil]
    | cons rule rest ih =>
      rw [List.findSome?_cons, List.findSome?_cons, hrules rule List.mem_cons_self,
        ih fun other hother => hrules other (List.mem_cons_of_mem rule hother)]
  rw [rewriteFirst, rewriteFirst, hfind r.rules h]

/-- **Rules that replace every prefix by nothing name functions as they name types.** -/
theorem functionName_eq_typeName {prefixes replacements : List String}
    (h : ∀ replacement ∈ replacements, replacement = "") (name : String) :
    (ofLists prefixes replacements).functionName name =
      (ofLists prefixes replacements).typeName name := by
  have hrules : ∀ rule ∈ (ofLists prefixes replacements).rules, id rule.2 = "" := by
    intro rule hrule
    obtain ⟨i, hi, rfl⟩ := List.mem_mapIdx.1 hrule
    dsimp only
    cases hget : replacements[i]? with
    | none => rfl
    | some replacement => exact h replacement (List.mem_of_getElem? hget)
  have hrewrite : (ofLists prefixes replacements).rewriteFirst id name =
      (ofLists prefixes replacements).rewriteFirst (fun _ => "") name :=
    rewriteFirst_congr hrules name
  rw [functionName, typeName, replace, trim, hrewrite]

end PrefixRules

end HeaderBindings
