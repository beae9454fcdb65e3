import HeaderBindings.Proofs.Naming.WrittenNames
import HeaderBindings.Proofs.Session.DistinctNames
import HeaderBindings.Proofs.Session.Growth

/-!
# Receivers of methods

A record is registered under a name from which the prefix is trimmed, and its methods are bound with
a receiver in which the prefix is replaced. Whatever a method is called, its receiver is the
function name of the record, read back. It is the registered name where replacing does what trimming
does (`receiver_of_method`), and a different one where a prefix has a replacement.

The two names are made at different times and of different rules. `PrefixRules.typeName` trims, and
the name that it gives is a key of the registry. `PrefixRules.functionName` replaces, and the name
that it gives stands in front of the method in the name for which the function asks; it is read back
from that name when the binding is made, which is why the reading comes in (`methodReceiver`).
-/

namespace HeaderBindings.Session

variable {s : Session} {p : Place} {d : Decl} {f : FunctionDecl}

/-! ### The name of a method -/

/-- In the scope of a record with a name, the record is what encloses a declaration. -/
theorem record?_inside {name : String} (hname : name ≠ "") (p : Place) (tag : Tag)
    (body : List (Slot CType)) : (p.inside (.record name tag body)).record? = some name := by
  rw [Place.inside, if_neg hname]
  rfl

/-- A function in a record asks for the name of a method of the record. -/
theorem candidateName_of_record {record : String} (h : p.record? = some record) (s : Session)
    (f : FunctionDecl) :
    ∃ method, s.candidateName p f =
      FunctionName.render ⟨some (s.rules.functionName record), method⟩ := by
  unfold candidateName
  rw [h]
  exact ⟨_, rfl⟩

/-- A function whose symbol has no override claims the name for which it asks. -/
theorem nameFunction_eq_claim {symbol : String} (h : s.overrides.get? symbol = none) (p : Place)
    (f : FunctionDecl) : s.nameFunction p symbol f = s.counter.claim (s.candidateName p f) := by
  unfold nameFunction
  rw [h]

/-- A symbol without an override gets some form of the name for which its function asks. -/
theorem nameFunction_of_not_overridden {symbol : String} (h : s.overrides.get? symbol = none)
    (p : Place) (f : FunctionDecl) :
    ∃ n, (s.nameFunction p symbol f).1 = NameCounter.form (s.candidateName p f) n := by
  rw [nameFunction_eq_claim h]
  exact ⟨_, rfl⟩

/-- Without overrides, no symbol is ever overridden. -/
theorem not_overridden_visitAll {options : SessionOptions} (h : options.overrides = ∅)
    (visits : List (Place × Decl)) (symbol : String) :
    ((start options).visitAll visits).overrides.get? symbol = none := by
  rw [overrides_visitAll]
  show options.overrides.get? symbol = none
  rw [h]
  rfl

/-- The receiver of the methods of a record, as it is read back from their names. -/
def methodReceiver (rules : PrefixRules) (record : String) : String :=
  FunctionName.readReceiver (rules.functionName record)

/-- **The visit of a function in a record binds it with the receiver of the record**, if it binds it
at all, unless its name is that of an override. -/
theorem visit_method {record : String} (hrecord : p.record? = some record)
    (hfree : ∀ symbol, s.overrides.get? symbol = none) (hkind : d.kind = .function f) :
    (s.visit p d).package = s.package ∨ ∃ b : FunctionBinding,
      (s.visit p d).package = s.package.push p.file (.function b) ∧
      b.name.receiver = some (methodReceiver s.rules record) := by
  rcases (outcome_visit s p d).of_function hkind with ⟨skipped, h⟩ | ⟨signature, -, -, h⟩
  · rw [h]
    exact .inl rfl
  · rw [h, bindFunction]
    dsimp only
    split
    · obtain ⟨method, hcandidate⟩ := candidateName_of_record hrecord s f
      obtain ⟨n, hname⟩ := nameFunction_of_not_overridden
        (hfree (SymbolIndex.undecorate s.decoration f.mangledName)) p f
      refine .inr ⟨_, rfl, ?_⟩
      dsimp only
      rw [hname, hcandidate, FunctionName.receiver_ofString_form, methodReceiver]
    · exact .inl rfl

/-! ### Records and their methods

The run is split at the visit of the record and at the visit of the function in its scope. The name
of the record is registered when the first of these ends, and registered names stay.
-/

/-- **The methods of a record have the registered name of the record as receiver where the prefix
rules name the record as a function as they name it as a type.**

The record stands anywhere in a run without overrides and is registered when it is visited, and the
function stands directly in its scope. If the visit of the function binds it, then with the receiver
of the record. Where that is the name of the record as a type, it is still registered at the end;
and it is that name if no rule has a replacement and the name is plain. -/
theorem receiver_of_method (options : SessionOptions) (hoverrides : options.overrides = ∅)
    (units : List HeaderUnit) {before first second after : List (Place × Decl)} {p : Place}
    {r d : Decl} {name : String} {tag : Tag} {body : List (Slot CType)} {f : FunctionDecl}
    (hvisits : units.flatMap HeaderUnit.visits = before ++ p.visitsOf r ++ after)
    (hrecord : r.kind = .record name tag body) (hname : name ≠ "")
    (hregistered : (start options).rules.typeName name ∈
      ((start options).visitAll (before ++ [(p, r)])).types)
    (hchild : p.visitsOf r = (p, r) :: first ++ (p.inside r.kind, d) :: second)
    (hfunction : d.kind = .function f) :
    ∃ s t : Session, s = (start options).visitAll (before ++ (p, r) :: first) ∧
      t = s.visit (p.inside r.kind) d ∧
      (start options).processAll units = t.visitAll (second ++ after) ∧
      (t.package = s.package ∨ ∃ b : FunctionBinding,
        t.package = s.package.push p.file (.function b) ∧
        b.name.receiver = some (methodReceiver (start options).rules name)) ∧
      (methodReceiver (start options).rules name = (start options).rules.typeName name →
        methodReceiver (start options).rules name ∈ ((start options).processAll units).types) ∧
      ((∀ replacement ∈ options.replPrefixes, replacement = "") →
        IsPlainName ((start options).rules.typeName name) →
        methodReceiver (start options).rules name = (start options).rules.typeName name) := by
  have hall : units.flatMap HeaderUnit.visits =
      (before ++ (p, r) :: first) ++ (p.inside r.kind, d) :: (second ++ after) := by
    rw [hvisits, hchild]
    simp only [List.append_assoc, List.cons_append]
  refine ⟨_, _, rfl, rfl, ?_, ?_, ?_, ?_⟩
  · rw [processAll_eq_visitAll, hall, visitAll_append, visitAll_cons]
  · have hplace : (p.inside r.kind).record? = some name := by
      rw [hrecord]
      exact record?_inside hname p tag body
    have hfree := not_overridden_visitAll hoverrides (before ++ (p, r) :: first)
    have hmethod := visit_method hplace hfree hfunction
    rw [rules_visitAll, Place.inside_file] at hmethod
    exact hmethod
  · intro heq
    have hrun : (start options).processAll units =
        ((start options).visitAll (before ++ [(p, r)])).visitAll
          (first ++ (p.inside r.kind, d) :: (second ++ after)) := by
      rw [processAll_eq_visitAll, hall, ← visitAll_append]
      simp only [List.append_assoc, List.cons_append, List.nil_append]
    rw [heq, hrun]
    exact mem_types_visitAll hregistered _
  · intro hreplacements hplain
    have hrules : (start options).rules.functionName name = (start options).rules.typeName name :=
      PrefixRules.functionName_eq_typeName hreplacements name
    rw [methodReceiver, hrules, FunctionName.readReceiver_of_plain hplain]

/-- The public method `bar` of a class of the header `foo.h`. -/
def fooMethod : Decl where
  kind := .function
    { name := "bar"
      displayName := "bar()"
      mangledName := "bar"
      kind := .method
      type := { params := [], result := .builtin .void } }
  location := { file := some "foo.h" }
  access := .publicMember

/-- The class `QFoo` of the header `foo.h`, with a field and the method. -/
def fooClass : Decl where
  kind := .record "QFoo" .classTag [⟨some "x", .builtin .int⟩]
  children := [fooMethod]
  location := { file := some "foo.h" }

def fooUnit : HeaderUnit := ⟨"foo.h", [fooClass]⟩

theorem receiver_of_fooMethod :
    methodReceiver (.ofLists ["Q"] []) "QFoo" = "Foo" ∧
    "Foo" ∈ ((start { trimPrefixes := ["Q"] }).processAll [fooUnit]).types := by
  have htype : (PrefixRules.ofLists ["Q"] []).typeName "QFoo" = "Foo" := by decide +kernel
  have hvisits : [fooUnit].flatMap HeaderUnit.visits =
      [] ++ (⟨"foo.h", []⟩ : Place).visitsOf fooClass ++ [] := rfl
  have hchild : (⟨"foo.h", []⟩ : Place).visitsOf fooClass =
      (⟨"foo.h", []⟩, fooClass) :: [] ++ (⟨"foo.h", [⟨"QFoo", true⟩]⟩, fooMethod) :: [] := rfl
  obtain ⟨s, t, -, -, -, -, hregistered, hreceiver⟩ :=
    receiver_of_method { trimPrefixes := ["Q"] } rfl [fooUnit] hvisits rfl (by decide)
      (by decide +kernel) hchild rfl
  have heq : methodReceiver (.ofLists ["Q"] []) "QFoo" = "Foo" :=
    (hreceiver (by simp) (by decide +kernel)).trans htype
  exact ⟨heq, heq ▸ hregistered (heq.trans htype.symm)⟩

/-- A class that is registered as `Foo`, and whose method has the receiver `KFoo`: the prefix is
replaced in the one name and trimmed in the other. -/
theorem receiver_of_fooMethod_replaced :
    [fooUnit].flatMap HeaderUnit.visits =
      [(⟨"foo.h", []⟩, fooClass), (⟨"foo.h", [⟨"QFoo", true⟩]⟩, fooMethod)] ∧
    ((start { trimPrefixes := ["Q"], replPrefixes := ["K"] }).processAll [fooUnit]).types.keys =
      ["Foo"] ∧
    ((start { trimPrefixes := ["Q"], replPrefixes := ["K"] }).processAll
      [fooUnit]).package.bindings.filterMap (fun b => b.function?.map (·.name)) =
        [⟨some "KFoo", "Bar"⟩] ∧
    "KFoo" ∉
      ((start { trimPrefixes := ["Q"], replPrefixes := ["K"] }).processAll [fooUnit]).types :=
  ⟨rfl, by decide +kernel, by decide +kernel, by decide +kernel⟩

end HeaderBindings.Session
