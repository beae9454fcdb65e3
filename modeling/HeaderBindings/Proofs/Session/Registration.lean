import HeaderBindings.Proofs.Conversion.Weakening
import HeaderBindings.Proofs.Session.Extension
import HeaderBindings.Proofs.Target.Agreement

/-!
# What is registered under a name

A declaration is registered under its target name as what it is converted to, unless the name is
taken. Which declaration comes first depends on the order of the visits, and so does what else is
registered by then; what it is registered as does not, as long as declarations with the same target
name are alike. So two runs agree on the names that they share (`agree_visitAll`), and if all
declarations can be converted, every target name is registered (`mem_types_visitAll_iff`).

## Which types, and as what

The two results are about different things, and are proved apart.

* That a type can be converted depends on the names that are registered, and never gets worse by
  more of them (`FailsAt.of_more`): the more names there are, the more references resolve. So what
  can be converted in its turn can be converted behind other headers, too (`ConvertsTypes.of_more`),
  and its name is registered afterwards, by its own declaration or by an earlier one
  (`mem_types_of_not_fails`).
* What a type is converted to depends on more, because a union keeps its largest alternative, and
  sizes are looked up in the registry. By induction on a run, everything that it registers was
  registered in one of its steps (`exists_step_of_get?`), and there the other run is compared with
  it: both have converted declarations that are alike (`RegistersAs.unique`), and the names that are
  needed for that have the same meaning in both registries. For sizes this is
  `Registry.Agree.sizeOf_eq`, which is why registries have to be layered (`selfLayered_visitAll`).

Whether the conversion of a step fails can be computed (`Step.fails`). So the assumption that
everything can be converted, which is one on all steps of a run, can be decided for a given run.
-/

namespace HeaderBindings.Session

variable {s t : Session} {p : Place} {d e : Decl} {target : String} {type type' : DeclaredType}

/-- The type of a declaration, if it declares one, can be converted in its step. -/
def Step.ConvertsType (v : Step) : Prop :=
  (v.session.declaredType? v.decl).isSome →
    ∀ label cause, ¬ v.session.FailsAt v.place v.decl label cause

/-- All types that are declared in some visits can be converted, each in its turn. -/
def ConvertsTypes (s : Session) (visits : List (Place × Decl)) : Prop :=
  ∀ v ∈ s.steps visits, v.ConvertsType

/-- The conversion of a declaration fails, if it is not passed over. -/
def Step.fails (v : Step) : Bool :=
  match v.decl.kind with
  | .record name tag body =>
    let target := v.session.rules.typeName name
    target ∉ v.session.types && !((v.session.openRecord target).converter.record tag body).isOk
  | .typedef name underlying =>
    v.session.rules.typeName name ∉ v.session.types &&
      !(v.session.converter.type false underlying).isOk
  | .enum _ items => !(Enumeration.values items).isOk
  | .function _ | .scope _ | .linkage | .unknown _ => false

theorem isOk_eq_false_iff {α : Type} {x : Converter.Result α} :
    x.isOk = false ↔ ∃ cause, x = .error cause := by
  cases x <;> simp [Except.isOk, Except.toBool]

/-- A step fails in the sense of the model exactly if the computed answer says so; the cases are the
kinds of declarations. -/
theorem Step.convertsType_iff {v : Step} :
    v.ConvertsType ↔ ((v.session.declaredType? v.decl).isSome → v.fails = false) := by
  unfold ConvertsType
  refine forall_congr' fun hdeclares => ?_
  rw [← Bool.not_eq_true]
  constructor
  · intro h hfails
    unfold fails at hfails
    unfold declaredType? at hdeclares
    split at hfails
    · next name tag body hkind =>
      simp only [Bool.and_eq_true, decide_eq_true_eq, Bool.not_eq_true', isOk_eq_false_iff]
        at hfails
      obtain ⟨hfree, cause, hfail⟩ := hfails
      rw [hkind] at hdeclares
      have hname : name ≠ "" := fun hname => by simp [hname] at hdeclares
      exact h _ _ (.record hkind hname hfree hfail)
    · next name underlying hkind =>
      simp only [Bool.and_eq_true, decide_eq_true_eq, Bool.not_eq_true', isOk_eq_false_iff]
        at hfails
      obtain ⟨hfree, cause, hfail⟩ := hfails
      rw [hkind] at hdeclares
      dsimp only at hdeclares
      split at hdeclares
      · cases hdeclares
      · next hpasses =>
        rw [Bool.or_eq_true, not_or] at hpasses
        exact h _ _ (.typedef ⟨hkind, hpasses.1, hpasses.2⟩ hfree hfail)
    · next name items hkind =>
      simp only [Bool.not_eq_true', isOk_eq_false_iff] at hfails
      obtain ⟨cause, hfail⟩ := hfails
      exact h _ _ (.enum hkind hfail)
    all_goals cases hfails
  · intro h label cause hfails
    apply h
    unfold fails
    cases hfails with
    | function hkind =>
      unfold declaredType? at hdeclares
      rw [hkind] at hdeclares
      cases hdeclares
    | record hkind hname hfree hfail =>
      rw [hkind]
      simp [hfree, hfail, Except.isOk, Except.toBool]
    | typedef htypedef hfree hfail =>
      rw [htypedef.kind]
      simp [hfree, hfail, Except.isOk, Except.toBool]
    | enum hkind hfail =>
      rw [hkind]
      simp [hfail, Except.isOk, Except.toBool]

instance (v : Step) : Decidable v.ConvertsType := decidable_of_iff _ Step.convertsType_iff.symm

instance (s : Session) (visits : List (Place × Decl)) : Decidable (s.ConvertsTypes visits) :=
  inferInstanceAs (Decidable (∀ v ∈ s.steps visits, v.ConvertsType))

/-! ### The same declaration in two sessions

The first of two sessions has fewer names registered, or the two sessions agree on the names that
they share. In both cases the rules for names are the same, since no visit changes them.
-/

theorem knownBy_openRecord (hrules : t.rules = s.rules) (hmore : ∀ n ∈ s.types, n ∈ t.types)
    (target : String) :
    (s.openRecord target).converter.KnownBy (t.openRecord target).converter where
  rules := hrules
  types n hn := by
    rcases Registry.mem_register.1 hn with rfl | hn
    · exact Registry.mem_register.2 (.inl rfl)
    · exact Registry.mem_register.2 (.inr (hmore n hn))

/-- **A type that can be converted can also be converted when more names are registered.** -/
theorem FailsAt.of_more {label : String} {cause : ConversionError}
    (h : t.FailsAt p d label cause) (hrules : t.rules = s.rules)
    (hmore : ∀ n ∈ s.types, n ∈ t.types) (hdeclares : (s.declaredType? d).isSome) :
    ∃ label cause, s.FailsAt p d label cause := by
  cases h with
  | function hkind =>
    unfold declaredType? at hdeclares
    rw [hkind] at hdeclares
    cases hdeclares
  | @record name tag body cause hkind hname hfree hfail =>
    rw [hrules] at hfree hfail
    cases hown : (s.openRecord (s.rules.typeName name)).converter.record tag body with
    | error cause => exact ⟨_, _, .record hkind hname (fun hmem => hfree (hmore _ hmem)) hown⟩
    | ok fields =>
      obtain ⟨fields', hok⟩ :=
        Converter.exists_record_of_knownBy (knownBy_openRecord hrules hmore _) hown
      cases hok.symm.trans hfail
  | @typedef name underlying cause htypedef hfree hfail =>
    have hknown : s.converter.KnownBy t.converter := ⟨hrules, hmore⟩
    have hown : s.IsTypedef d name underlying := by
      obtain ⟨hkind, hunknown, hrenames⟩ := htypedef
      rw [hrules] at hunknown
      unfold renamesTag at hrenames
      rw [hrules] at hrenames
      exact ⟨hkind, hunknown, hrenames⟩
    rw [hrules] at hfree
    cases hok : s.converter.type false underlying with
    | error cause => exact ⟨_, _, .typedef hown (fun hmem => hfree (hmore _ hmem)) hok⟩
    | ok type => cases (Converter.type_of_knownBy hknown hok).symm.trans hfail
  | enum hkind hfail => exact ⟨_, _, .enum hkind hfail⟩

/-- **Declarations that are alike are registered as the same type**, in sessions that agree. -/
theorem RegistersAs.unique (h : s.RegistersAs d target type) (h' : t.RegistersAs e target type')
    (hkind : d.kind = e.kind) (hrules : t.rules = s.rules) (hs : s.types.SelfLayered)
    (ht : t.types.SelfLayered) (hagree : s.types.Agree t.types) (hfree : target ∉ s.types)
    (hfree' : target ∉ t.types) : type = type' := by
  cases h with
  | @record name tag body fields hd hok =>
    cases h' with
    | @record name' tag' body' fields' he hok' =>
      cases hd.symm.trans (hkind.trans he)
      have hopened : (s.openRecord target).types.Agree (t.openRecord target).types :=
        hagree.register_both hfree hfree' _
      -- an open record contains nothing yet
      have hs' : (s.openRecord target).types.SelfLayered := hs.register fun _ hn => nomatch hn
      have ht' : (t.openRecord target).types.SelfLayered := ht.register fun _ hn => nomatch hn
      have hfields : fields = fields' :=
        Converter.record_unique hrules (fun _ hnames => hopened.sizeOf_eq hs' ht' hnames) hok hok'
      rw [hfields]
    | typedef he | enum he => cases hd.symm.trans (hkind.trans he)
  | typedef hd hok =>
    cases h' with
    | typedef he hok' =>
      cases hd.symm.trans (hkind.trans he)
      rw [Converter.type_unique hrules hok hok']
    | record he | enum he => cases hd.symm.trans (hkind.trans he)
  | enum hd =>
    cases h' with
    | enum => rfl
    | record he | typedef he => cases hd.symm.trans (hkind.trans he)

/-! ### Types that may contain themselves

A record is registered when it is opened, before its fields are converted, so its fields may refer
to it. They may do that by value as well, which no compiler accepts but a session does not rule out.
So a type refers to types that were registered earlier and, at most, to itself.
-/

theorem selfLayered_visit (h : s.types.SelfLayered) (p : Place) (d : Decl) :
    (s.visit p d).types.SelfLayered := by
  rcases (outcome_visit s p d).registration with heq | ⟨target, type, -, -, hregisters, heq⟩
  · rw [heq]
    exact h
  · rw [heq]
    apply h.register
    intro n hn
    exact hregisters.mem_of_mentions (TargetType.mentions_of_mem_byValue _ hn)

theorem selfLayered_visitAll (options : SessionOptions) (visits : List (Place × Decl)) :
    ((start options).visitAll visits).types.SelfLayered :=
  visitAll_preserves (motive := fun t => t.types.SelfLayered)
    (fun _ p d h => selfLayered_visit h p d) Registry.SelfLayered.empty visits

/-! ### Runs

The induction of `agree_visitAll` is on the first run; the second one is kept as it is. Each step of
the first run that registers a type is compared with the step of the second run that has registered
the name.
-/

/-- A step registers what its declaration is converted to, under a name that is free. -/
structure Step.Registers (v : Step) (target : String) (type : DeclaredType) : Prop where
  declared : v.session.declaredType? v.decl = some target
  free : target ∉ v.session.types
  converts : v.session.RegistersAs v.decl target type
  types_eq : v.after.types = v.session.types.register target type

/-- **A type that is registered in some visits was registered in one of them**, under a free name
and as what the declaration was converted to. -/
theorem exists_step_of_get? {visits : List (Place × Decl)} (hnew : s.types.get? target = none)
    (hget : (s.visitAll visits).types.get? target = some type) :
    ∃ v ∈ s.steps visits, v.Registers target type := by
  refine steps_induction (motive := fun before t => t.types.get? target = some type →
    ∃ v ∈ before, v.Registers target type) ?_ ?_ hget
  · intro hget
    cases hnew.symm.trans hget
  · intro before v _ ih hget
    have hearlier : v.session.types.get? target = some type →
        ∃ w ∈ before ++ [v], w.Registers target type := by
      intro hget
      obtain ⟨w, hw, hregisters⟩ := ih hget
      exact ⟨w, List.mem_append_left _ hw, hregisters⟩
    have houtcome : Outcome v.session v.place v.decl v.after := outcome_visit _ _ _
    rcases houtcome.registration with heq | ⟨own, found, hdeclared, hfree, hregisters, heq⟩
    · rw [heq] at hget
      exact hearlier hget
    · have hstep : v.Registers own found := ⟨hdeclared, hfree, hregisters, heq⟩
      rw [heq, Registry.get?_register] at hget
      split at hget
      · next hown =>
        obtain ⟨rfl, -⟩ := hown
        cases hget
        exact ⟨v, List.mem_append_right _ (List.mem_singleton_self v), hstep⟩
      · exact hearlier hget

/-- **Two runs agree on the types that both of them register**, if declarations with the same target
name are alike. -/
theorem agree_visitAll {options : SessionOptions} {visits visits' : List (Place × Decl)}
    (halike : ∀ v ∈ visits, ∀ w ∈ visits', ∀ target,
      (start options).declaredType? v.2 = some target →
      (start options).declaredType? w.2 = some target → v.2.kind = w.2.kind) :
    ((start options).visitAll visits).types.Agree ((start options).visitAll visits').types := by
  refine steps_induction
    (motive := fun _ t => t.types.Agree ((start options).visitAll visits').types) ?_ ?_
  · intro name declared declared' hget
    cases hget
  · intro before v hv hagree
    have hvrules := rules_of_mem_steps hv
    have houtcome : Outcome v.session v.place v.decl v.after := outcome_visit _ _ _
    rcases houtcome.registration with heq | ⟨target, type, hdeclared, hfree, hregisters, heq⟩
    · rw [heq]
      exact hagree
    · rw [heq]
      apply hagree.register
      intro _ type' hget'
      -- the second run has registered the name in a step of its own
      obtain ⟨w, hw, hdeclared', hfree', hregisters', -⟩ := exists_step_of_get? rfl hget'
      have hwrules := rules_of_mem_steps hw
      rw [declaredType?_congr hvrules] at hdeclared
      rw [declaredType?_congr hwrules] at hdeclared'
      have hkind : v.decl.kind = w.decl.kind :=
        halike _ (mem_of_mem_steps hv) _ (mem_of_mem_steps hw) target hdeclared hdeclared'
      have hown : v.session.types.Agree w.session.types := by
        intro name found found' hfound hfound'
        have hlater := OrderedMap.get?_of_prefix (extends_of_mem_steps hw).types hfound'
        exact hagree name found found' hfound hlater
      have hlayered : ∀ {visits : List (Place × Decl)} {x : Step},
          x ∈ (start options).steps visits → x.session.types.SelfLayered := by
        intro visits x hx
        obtain ⟨first, second, -, hsession⟩ := exists_visitAll_of_mem_steps hx
        rw [hsession]
        exact selfLayered_visitAll options first
      exact hregisters.unique hregisters' hkind (hwrules.trans hvrules.symm) (hlayered hv)
        (hlayered hw) hown hfree hfree'

/-- **What can be converted can be converted behind other headers**, by induction on the visits: the
names that are registered stay at least those of the first run. -/
theorem ConvertsTypes.of_more {visits : List (Place × Decl)} (h : s.ConvertsTypes visits)
    (hrules : t.rules = s.rules) (hmore : ∀ n ∈ s.types, n ∈ t.types) :
    t.ConvertsTypes visits := by
  induction visits generalizing s t with
  | nil => exact fun v hv => nomatch hv
  | cons v rest ih =>
    obtain ⟨p, d⟩ := v
    have hfirst : Step.ConvertsType ⟨s, p, d⟩ := h _ List.mem_cons_self
    have hsame := declaredType?_congr hrules d
    have hconverts : Step.ConvertsType ⟨t, p, d⟩ := by
      intro hdeclares label cause hfails
      have hdeclares' : (s.declaredType? d).isSome := hsame ▸ hdeclares
      obtain ⟨label', cause', hfails'⟩ := hfails.of_more hrules hmore hdeclares'
      exact hfirst hdeclares' label' cause' hfails'
    have hmore' : ∀ n ∈ (s.visit p d).types, n ∈ (t.visit p d).types := by
      intro n hn
      have houtcome := outcome_visit t p d
      rcases (outcome_visit s p d).registration with heq | ⟨target, type, hdeclared, -, -, heq⟩
      · rw [heq] at hn
        exact houtcome.mem_types (hmore n hn)
      · rw [heq] at hn
        rcases Registry.mem_register.1 hn with rfl | hn
        · have hdeclared' : t.declaredType? d = some n := hsame.trans hdeclared
          exact houtcome.mem_of_declared hdeclared' (hconverts (hdeclared' ▸ rfl))
        · exact houtcome.mem_types (hmore n hn)
    have hrules' : (t.visit p d).rules = (s.visit p d).rules := by
      rw [rules_visit, rules_visit, hrules]
    have hrest := ih (fun w hw => h w (List.mem_cons_of_mem _ hw)) hrules' hmore'
    intro w hw
    rcases List.mem_cons.1 hw with rfl | hw
    · exact hconverts
    · exact hrest w hw

/-- A type is registered in the end if its declaration can be converted when its turn comes. -/
theorem mem_types_of_not_fails {visits : List (Place × Decl)} {w : Place × Decl} (hw : w ∈ visits)
    (htarget : s.declaredType? w.2 = some target)
    (hok : ∀ v ∈ s.steps visits, (v.place, v.decl) = w →
      ∀ label cause, ¬ v.session.FailsAt v.place v.decl label cause) :
    target ∈ (s.visitAll visits).types := by
  obtain ⟨v, hv, rfl⟩ := exists_step_of_mem s hw
  have hok := hok v hv rfl
  rw [← declaredType?_congr (rules_of_mem_steps hv)] at htarget
  have hmem : target ∈ v.after.types :=
    (outcome_visit v.session v.place v.decl).mem_of_declared htarget hok
  obtain ⟨type, hget⟩ := OrderedMap.exists_get?_of_mem hmem
  exact OrderedMap.mem_of_get?
    (OrderedMap.get?_of_prefix (extends_after_of_mem_steps hv).types hget)

/-- **If all types can be converted, the registered names are the target names of the
declarations.** -/
theorem mem_types_visitAll_iff {options : SessionOptions} {visits : List (Place × Decl)}
    (h : (start options).ConvertsTypes visits) :
    target ∈ ((start options).visitAll visits).types ↔
      ∃ v ∈ visits, (start options).declaredType? v.2 = some target := by
  constructor
  · intro hmem
    obtain ⟨type, hget⟩ := OrderedMap.exists_get?_of_mem hmem
    obtain ⟨v, hv, hdeclared, -⟩ := exists_step_of_get? rfl hget
    rw [declaredType?_congr (rules_of_mem_steps hv)] at hdeclared
    exact ⟨_, mem_of_mem_steps hv, hdeclared⟩
  · rintro ⟨w, hw, hdeclared⟩
    refine mem_types_of_not_fails hw hdeclared ?_
    rintro v hv rfl
    rw [← declaredType?_congr (rules_of_mem_steps hv)] at hdeclared
    exact h v hv (hdeclared ▸ rfl)

end HeaderBindings.Session
