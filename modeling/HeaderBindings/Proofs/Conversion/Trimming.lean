import HeaderBindings.Conversion

/-!
# Conversions only trim names

Of the prefix rules, a conversion uses what they remove from a name and never what they put in its
place. Two sets of rules that trim alike convert every type, signature and record alike, and rules
that differ in their replacements only do trim alike.

The target name of a type is made of its trimmed name, and so are the references to it; only
functions and the members of classes show replacements. Conversion of types can therefore be proved
to be the same for two runs that differ in their replacements only, which is what a comparison of
such runs needs.
-/

namespace HeaderBindings

variable {r r' : PrefixRules}

/-- The name of a type shows what the rules remove and nothing else of them. -/
theorem PrefixRules.typeName_congr (h : r.trim = r'.trim) : r.typeName = r'.typeName := by
  funext name
  rw [typeName, typeName, h]

/-- **The replacements of prefixes do not show in what is trimmed.** -/
theorem PrefixRules.trim_ofLists (prefixes replacements replacements' : List String) :
    (ofLists prefixes replacements).trim = (ofLists prefixes replacements').trim := by
  have htrim : ∀ (r : PrefixRules) (name : String),
      r.trim name = ((r.rules.map Prod.fst).findSome? (·.rewrite? name "")).getD name := by
    intro r name
    rw [trim, rewriteFirst, List.findSome?_map]
    rfl
  have hprefixes : ∀ replacements : List String,
      (ofLists prefixes replacements).rules.map Prod.fst = prefixes.map Prefix.ofString := by
    intro replacements
    apply List.ext_getElem
    · simp [ofLists]
    · intro i _ _
      simp [ofLists]
  funext name
  rw [htrim, htrim, hprefixes, hprefixes]

namespace Converter

/-- A reference is resolved under the trimmed name. -/
theorem reference_congr (h : r.trim = r'.trim) (types : Registry) (ref : NamedRef) :
    (⟨r, types⟩ : Converter).reference ref = (⟨r', types⟩ : Converter).reference ref := by
  unfold reference
  dsimp only
  rw [h, PrefixRules.typeName_congr h]

mutual

/-- **Rules that trim alike convert types alike.** -/
theorem type_congr (h : r.trim = r'.trim) (types : Registry) : ∀ (asParam : Bool) (t : CType),
    (⟨r, types⟩ : Converter).type asParam t = (⟨r', types⟩ : Converter).type asParam t
  | _, .builtin b => by rw [type, type]
  | _, .pointer pointee => by rw [type, type, type_congr h types false pointee]
  | _, .array elem length => by rw [type, type, type_congr h types false elem]
  | _, .func ⟨ps, isVariadic, ret⟩ => by
    rw [type, type, params_congr h types ps, type_congr h types false ret]
  | _, .named ref => by rw [type, type, reference_congr h]
  | _, .variadic => by rw [type, type]

theorem params_congr (h : r.trim = r'.trim) (types : Registry) : ∀ ps : List (Slot CType),
    (⟨r, types⟩ : Converter).params ps = (⟨r', types⟩ : Converter).params ps
  | [] => by rw [params, params]
  | ⟨name, t⟩ :: rest => by
    rw [params.eq_def, params.eq_def]
    dsimp only
    -- a `...` is no type, so it is not converted at all
    split
    · rfl
    · rfl
    · rw [type_congr h types true, params_congr h types rest]

end

/-- Parts of a signature are converted as types, so it is converted alike. -/
theorem signature_congr (h : r.trim = r'.trim) (types : Registry) (f : Prototype CType) :
    (⟨r, types⟩ : Converter).signature f = (⟨r', types⟩ : Converter).signature f := by
  unfold signature
  rw [params_congr h, type_congr h]

theorem fields_congr (h : r.trim = r'.trim) (types : Registry) (body : List (Slot CType)) :
    (⟨r, types⟩ : Converter).fields body = (⟨r', types⟩ : Converter).fields body := by
  induction body with
  | nil => rfl
  | cons field rest ih => rw [fields, fields, type_congr h, ih]

/-- **Rules that trim alike convert records alike.** -/
theorem record_congr (h : r.trim = r'.trim) (types : Registry) (tag : Tag)
    (body : List (Slot CType)) :
    (⟨r, types⟩ : Converter).record tag body = (⟨r', types⟩ : Converter).record tag body := by
  unfold record
  rw [fields_congr h]

end Converter

end HeaderBindings
