import HeaderBindings.Proofs.Naming.SuffixNumbering
import HeaderBindings.Proofs.Session.Receivers
import HeaderBindings.Proofs.Text.CamelCase

/-!
# Functions of one name are numbered in order

Every function that is named automatically claims a name in camel case, so no name that is claimed
holds an underscore and none looks like one with a suffix. The counter of a run without overrides
therefore knows the claims of the run and nothing else: the first function that asks for a name gets
it, and the others get it with the numbers 1, 2, … in the order in which they are visited.

The counter takes two kinds of names: those for which functions ask and those that it makes by
appending a number. In general the two meet, since a function may ask for `Foo__1` before a second
one asks for `Foo`. Names in camel case exclude this, and the numbers are counts of earlier claims
(`NameCounter.Numbers`). Overrides are excluded as well, as their targets are claimed before the run
and may have any form.
-/

namespace HeaderBindings

/-! ### Names without underscores

Camel case takes underscores out of a name, and a method is written with dots and parentheses around
its receiver.
-/

/-- A name is written without an underscore if its parts have none. -/
theorem FunctionName.underscore_not_mem_render {receiver method : String}
    (hreceiver : '_' ∉ receiver.toList) (hmethod : '_' ∉ method.toList) :
    '_' ∉ (render ⟨some receiver, method⟩).toList := by
  rw [toList_render]
  simp [hreceiver, hmethod]

namespace Session

variable {s : Session} {p : Place} {d : Decl} {f : FunctionDecl}

/-- **No function asks for a name with an underscore.** -/
theorem underscore_not_mem_candidateName (s : Session) (p : Place) (f : FunctionDecl) :
    '_' ∉ (s.candidateName p f).toList := by
  have hname : ∀ name, '_' ∉ (s.rules.functionName name).toList :=
    fun name => Text.underscore_not_mem_camelCase _
  unfold candidateName
  dsimp only
  generalize (if f.kind = .destructor then (Text.afterStart? "~" f.name).getD f.name
    else f.name) = raw
  cases p.record? with
  | none => exact hname raw
  | some record =>
    apply FunctionName.underscore_not_mem_render (hname record)
    -- the method has a fixed name, or one that is made like all others
    cases f.kind with
    | destructor =>
      show '_' ∉ "Dispose".toList
      decide
    | constructor =>
      dsimp only
      split
      · decide
      · exact hname raw
    | free | method => exact hname raw

/-! ### Steps that name a function

Only a step that binds a function changes the counter, by one claim. So a run is numbered by the
candidates of its steps, in order.
-/

/-- A step converts an exported function of its header, and so names it. -/
structure Step.Names (v : Step) (f : FunctionDecl) (signature : Signature TargetType) : Prop where
  kind : v.decl.kind = .function f
  holds : v.place.holds v.decl
  exported : isExported f v.decl
  converts : v.session.converter.signature f.type = .ok signature

/-- The name for which a step asks. Functions that are not exported, that stand in another header or
that cannot be converted ask for none, and neither does any other declaration. -/
def Step.candidate? (v : Step) : Option String :=
  match v.decl.kind with
  | .function f =>
    if v.place.holds v.decl && isExported f v.decl then
      match v.session.converter.signature f.type with
      | .ok _ => some (v.session.candidateName v.place f)
      | .error _ => none
    else none
  | _ => none

namespace Step

variable {v : Step} {signature : Signature TargetType}

/-- A step that names a function asks for the candidate name of the function. -/
theorem candidate?_eq_some (h : v.Names f signature) :
    v.candidate? = some (v.session.candidateName v.place f) := by
  unfold candidate?
  rw [h.kind]
  dsimp only
  rw [h.holds, h.exported, h.converts]
  rfl

/-- Any other step asks for none. -/
theorem candidate?_eq_none (h : ∀ f signature, ¬ v.Names f signature) : v.candidate? = none := by
  unfold candidate?
  split
  · next f hkind =>
    split
    · next hfunction =>
      rw [Bool.and_eq_true] at hfunction
      split
      · next signature hok => exact absurd ⟨hkind, hfunction.1, hfunction.2, hok⟩ (h f signature)
      · rfl
    · rfl
  · rfl

/-- A step that names a function binds it. -/
theorem after_eq_bindFunction (h : v.Names f signature) :
    v.after = v.session.bindFunction v.place v.decl f signature := by
  unfold after visit
  rw [h.kind]
  dsimp only
  unfold visitFunction
  rw [h.holds, h.exported, h.converts]
  rfl

/-- A step names a function, or it leaves the counter and the index alone, and what shapes names. -/
theorem after_cases (v : Step) :
    (∃ f signature, v.Names f signature ∧
      v.after = v.session.bindFunction v.place v.decl f signature) ∨
    ∃ types package skipped emitted,
      v.after = { v.session with types, package, skipped, emitted } := by
  rcases (outcome_visit v.session v.place v.decl).eq_or_bindFunction with
    hsame | ⟨f, signature, hkind, hholds, hexported, hok, heq⟩
  · exact .inr hsame
  · exact .inl ⟨f, signature, ⟨hkind, hholds, hexported, hok⟩, heq⟩

theorem after_of_not_names (h : ∀ f signature, ¬ v.Names f signature) :
    ∃ types package skipped emitted,
      v.after = { v.session with types, package, skipped, emitted } := by
  rcases v.after_cases with ⟨f, signature, hnames, -⟩ | hsame
  · exact absurd hnames (h f signature)
  · exact hsame

/-- A step that names no function claims no name. -/
theorem counter_after_of_not_names (h : ∀ f signature, ¬ v.Names f signature) :
    v.after.counter = v.session.counter := by
  obtain ⟨types, package, skipped, emitted, hafter⟩ := after_of_not_names h
  rw [hafter]

end Step

/-! ### Runs without overrides

The invariant is that the counter numbers the claims so far. It holds at the start, where there are
none.
-/

/-- **A step counts the name for which it asks**, and nothing else. -/
theorem numbers_after {v : Step} {claims : List String}
    (h : NameCounter.Numbers v.session.counter claims)
    (hfree : ∀ symbol, v.session.overrides.get? symbol = none) :
    NameCounter.Numbers v.after.counter (claims ++ v.candidate?.toList) := by
  by_cases hnames : ∃ f signature, v.Names f signature
  · obtain ⟨f, signature, hnames⟩ := hnames
    have hclaim := h.claim (underscore_not_mem_candidateName v.session v.place f)
    rw [Step.after_eq_bindFunction hnames, Step.candidate?_eq_some hnames, bindFunction]
    dsimp only
    rw [nameFunction_eq_claim (hfree _)]
    exact hclaim
  · have hnone : ∀ f signature, ¬ v.Names f signature :=
      fun f signature h => hnames ⟨f, signature, h⟩
    rw [Step.counter_after_of_not_names hnone, Step.candidate?_eq_none hnone, Option.toList_none,
      List.append_nil]
    exact h

/-- **A run counts the names for which its steps ask**, by induction on the visits. -/
theorem numbers_visitAll {claims : List String} (h : NameCounter.Numbers s.counter claims)
    (hfree : ∀ symbol, s.overrides.get? symbol = none) (visits : List (Place × Decl)) :
    NameCounter.Numbers (s.visitAll visits).counter
      (claims ++ (s.steps visits).filterMap Step.candidate?) := by
  induction visits generalizing s claims with
  | nil =>
    rw [steps, List.filterMap_nil, List.append_nil]
    exact h
  | cons w rest ih =>
    have hstep := numbers_after (v := ⟨s, w.1, w.2⟩) h hfree
    have hrest := ih hstep (by
      intro symbol
      rw [Step.after, overrides_visit]
      exact hfree symbol)
    rw [List.append_assoc] at hrest
    rw [filterMap_steps_cons]
    exact hrest

/-- **In a run without overrides, the functions that ask for one name are numbered in order.**

A function that is exported, stands in the header that is walked and can be converted is indexed
under the name for which it asks if it is the first to ask for it, and otherwise under that name
with the number of those that have asked for it before. It is bound under the same name if its
header is one for which bindings are made. -/
theorem targetName_numbered (options : SessionOptions) (hoverrides : options.overrides = ∅)
    (units : List HeaderUnit) {before after : List Step} {v : Step} {f : FunctionDecl}
    {signature : Signature TargetType}
    (hsteps : (start options).steps (units.flatMap HeaderUnit.visits) = before ++ v :: after)
    (hnames : v.Names f signature) :
    ∃ name n target,
      name = (start options).candidateName v.place f ∧
      n = (before.filterMap Step.candidate?).count name ∧
      target = (if n = 0 then name else name ++ "__" ++ n.repr) ∧
      v.after.symbols.get? (SymbolIndex.undecorate options.decoration f.mangledName) =
        some ⟨target, v.place.qualified f.displayName⟩ ∧
      (v.place.emits → v.after.package = v.session.package.push v.place.file (.function
        ⟨.ofString target, SymbolIndex.undecorate options.decoration f.mangledName, signature,
          v.decl.doc⟩)) := by
  obtain ⟨first, second, -, rfl, hsession⟩ := exists_of_steps_eq hsteps
  have hfree : ∀ symbol, v.session.overrides.get? symbol = none := by
    rw [hsession]
    exact not_overridden_visitAll hoverrides first
  have hcandidate :
      v.session.candidateName v.place f = (start options).candidateName v.place f := by
    unfold candidateName
    rw [hsession, rules_visitAll]
  have hdecoration : v.session.decoration = options.decoration := by
    rw [hsession, decoration_visitAll]
    rfl
  have hnumbers : NameCounter.Numbers v.session.counter
      (((start options).steps first).filterMap Step.candidate?) := by
    have hstart : NameCounter.Numbers (start options).counter [] := by
      unfold start
      rw [hoverrides]
      exact .start
    rw [hsession]
    exact numbers_visitAll hstart (not_overridden_visitAll hoverrides []) first
  have hclaim := hnumbers.claim_eq (underscore_not_mem_candidateName v.session v.place f)
  rw [NameCounter.form_eq, hcandidate] at hclaim
  refine ⟨_, _, _, rfl, rfl, rfl, ?_, ?_⟩
  · rw [Step.after_eq_bindFunction hnames, bindFunction]
    dsimp only
    rw [nameFunction_eq_claim (hfree _), hcandidate, hclaim, hdecoration, OrderedMap.get?_insert,
      if_pos rfl]
  · intro hemits
    rw [Step.after_eq_bindFunction hnames, bindFunction]
    dsimp only
    rw [if_pos hemits, nameFunction_eq_claim (hfree _), hcandidate, hclaim, hdecoration]

/-- A function that moves a pen, declared in a header. -/
def penFunction (header name : String) (params : List (Slot CType)) : Decl where
  kind := .function
    { name, displayName := name ++ "()", mangledName := name, kind := .free
      type := { params, result := .builtin .void } }
  location := { file := some header }

/-- A header with a function, with one of the same name that cannot be converted, and with one that
stands in the header `ink.h`. -/
def penUnit : HeaderUnit :=
  ⟨"pen.h", [penFunction "pen.h" "pen_up" [],
    penFunction "pen.h" "penUp" [⟨some "ink", .named ⟨"ink_t", [], none⟩⟩],
    penFunction "ink.h" "pen__up" []]⟩

/-- The header `ink.h`, which is walked next. -/
def inkUnit : HeaderUnit := ⟨"ink.h", [penFunction "ink.h" "pen__up" []]⟩

/-- The one step of the walk through `ink.h`. -/
def inkStep : Step :=
  ⟨(start {}).visitAll penUnit.visits, ⟨"ink.h", []⟩, penFunction "ink.h" "pen__up" []⟩

theorem targetName_numbered_penUp :
    ((start {}).steps penUnit.visits).map Step.candidate? = [some "PenUp", none, none] ∧
    inkStep.after.symbols.get? "pen__up" = some ⟨"PenUp__1", "pen__up()"⟩ := by
  have hsteps : (start {}).steps ([penUnit, inkUnit].flatMap HeaderUnit.visits) =
      (start {}).steps penUnit.visits ++ inkStep :: [] := rfl
  have hnames : inkStep.Names
      ⟨"pen__up", "pen__up()", "pen__up", .free, [], false, .builtin .void⟩ ⟨[], false, []⟩ :=
    ⟨rfl, by decide, rfl, rfl⟩
  have hcandidates : ((start {}).steps penUnit.visits).map Step.candidate? =
      [some "PenUp", none, none] := by
    decide +kernel
  obtain ⟨name, n, target, hname, hn, htarget, hindexed, -⟩ :=
    targetName_numbered {} rfl [penUnit, inkUnit] hsteps hnames
  have hname : name = "PenUp" := hname.trans (by decide +kernel)
  have hn : n = 1 := by
    rw [hn, hname]
    decide +kernel
  rw [hname, hn] at htarget
  refine ⟨hcandidates, ?_⟩
  rw [htarget] at hindexed
  exact hindexed

end Session

end HeaderBindings
