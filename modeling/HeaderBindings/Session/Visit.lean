import HeaderBindings.Header.Enumeration
import HeaderBindings.Session

/-!
# Visiting a declaration

What one declaration of a header does to a session, apart from those nested in it. Functions of the
header itself are named, indexed and bound. Types are registered wherever they are declared, so that
references to them resolve, and bound when their own header is walked. A declaration that cannot be
converted leaves nothing behind but a report.
-/

namespace HeaderBindings

structure Enclosing where
  name : String
  isRecord : Bool
  deriving Repr, DecidableEq

/-- Where the walk stands: the header that is walked, and what encloses the declaration, innermost
first. -/
structure Place where
  file : String
  enclosing : List Enclosing := []
  deriving Repr, DecidableEq

namespace Place

/-- Whether bindings are made. Headers that only declare known typedefs get none. -/
def emits (p : Place) : Bool := !Catalog.isKnownHeader p.file

def holds (p : Place) (d : Decl) : Bool := d.file? = some p.file

/-- The place inside a declaration. -/
def inside (p : Place) : DeclKind → Place
  | .scope (some name) => { p with enclosing := ⟨name, false⟩ :: p.enclosing }
  | .record name _ _ =>
    -- without a name it does not show in the names of what it holds
    if name = "" then p else { p with enclosing := ⟨name, true⟩ :: p.enclosing }
  | _ => p

def record? (p : Place) : Option String :=
  match p.enclosing with
  | ⟨name, true⟩ :: _ => some name
  | _ => none

/-- A name behind those that enclose it, outermost first. -/
def qualified (p : Place) (name : String) : String :=
  Text.joined "::" ((p.enclosing.map Enclosing.name).reverse ++ [name])

end Place

namespace Session

/-- Reports a declaration of the header that cannot be converted. -/
def skip (s : Session) (p : Place) (d : Decl) (label : String) (cause : ConversionError) :
    Session :=
  -- one of another header is reported when that header is walked
  if p.holds d then { s with skipped := s.skipped ++ [⟨label, p.file, cause⟩] } else s

theorem skip_eq (s : Session) (p : Place) (d : Decl) (label : String) (cause : ConversionError) :
    s.skip p d label cause =
      { s with skipped := s.skipped ++ if p.holds d then [⟨label, p.file, cause⟩] else [] } := by
  unfold skip
  split
  · rfl
  · rw [List.append_nil]

/-- Binds a registered type of the header, once. -/
def emitType (s : Session) (p : Place) (d : Decl) (target : String) : Session :=
  if p.emits && p.holds d && !s.emitted.contains target then
    match s.types.get? target with
    | some declared =>
      let binding := ⟨target, declared.kind, declared.underlying, d.doc⟩
      { s with
        emitted := target :: s.emitted
        package := s.package.push p.file (.type binding) }
    | none => s
  else s

/-- Binding a type either changes nothing, or binds what is registered under its name. -/
theorem emitType_cases (s : Session) (p : Place) (d : Decl) (target : String) :
    s.emitType p d target = s ∨
      ∃ declared, s.types.get? target = some declared ∧ p.emits ∧ p.holds d ∧
        target ∉ s.emitted ∧
        s.emitType p d target = { s with
          emitted := target :: s.emitted
          package := s.package.push p.file
            (.type ⟨target, declared.kind, declared.underlying, d.doc⟩) } := by
  unfold emitType
  split
  · next h =>
    simp only [Bool.and_eq_true, Bool.not_eq_true', List.contains_eq_mem,
      decide_eq_false_iff_not] at h
    split
    · next declared hget => exact .inr ⟨declared, hget, h.1.1, h.1.2, h.2, rfl⟩
    · exact .inl rfl
  · exact .inl rfl

theorem emitType_eq (s : Session) (p : Place) (d : Decl) (target : String) :
    ∃ emitted package, s.emitType p d target = { s with emitted, package } := by
  rcases emitType_cases s p d target with h | ⟨_, _, _, _, _, h⟩
  · exact ⟨s.emitted, s.package, h⟩
  · exact ⟨_, _, h⟩

@[simp] theorem types_emitType (s : Session) (p : Place) (d : Decl) (target : String) :
    (s.emitType p d target).types = s.types := by
  obtain ⟨emitted, package, h⟩ := emitType_eq s p d target
  rw [h]

/-! ### Functions -/

/-- Whether a function may be used from outside: methods have to be public. -/
def isExported (f : FunctionDecl) (d : Decl) : Bool :=
  f.kind ≠ .method || d.access = .publicMember

/-- The name for which a function asks: its own in the target's spelling, behind the record that
directly encloses it. -/
def candidateName (s : Session) (p : Place) (f : FunctionDecl) : String :=
  let raw :=
    if f.kind = .destructor then (Text.afterStart? "~" f.name).getD f.name else f.name
  let own := s.rules.functionName raw
  match p.record? with
  | none => own
  | some record =>
    let receiver := s.rules.functionName record
    let method :=
      match f.kind with
      | .destructor => "Dispose"
      | .constructor => if own = receiver then "Init" else own
      | _ => own
    FunctionName.render ⟨some receiver, method⟩

/-- The target name of a function with a given symbol: that of its override, or the first free form
of the name for which it asks. -/
def nameFunction (s : Session) (p : Place) (symbol : String) (f : FunctionDecl) :
    String × NameCounter :=
  match s.overrides.get? symbol with
  | some target => (target, s.counter)
  | none => s.counter.claim (s.candidateName p f)

/-- Names, indexes and binds a function whose signature is converted. -/
def bindFunction (s : Session) (p : Place) (d : Decl) (f : FunctionDecl)
    (signature : Signature TargetType) : Session :=
  let symbol := SymbolIndex.undecorate s.decoration f.mangledName
  let named := s.nameFunction p symbol f
  let binding := ⟨FunctionName.ofString named.1, symbol, signature, d.doc⟩
  { s with
    counter := named.2
    symbols := s.symbols.insert symbol ⟨named.1, p.qualified f.displayName⟩
    package := if p.emits then s.package.push p.file (.function binding) else s.package }

def visitFunction (s : Session) (p : Place) (d : Decl) (f : FunctionDecl) : Session :=
  if p.holds d && isExported f d then
    match s.converter.signature f.type with
    | .error cause => s.skip p d (p.qualified f.displayName) cause
    | .ok signature => s.bindFunction p d f signature
  else s

/-! ### Types -/

/-- Registers a type unless its name is taken, and binds what is registered under the name. -/
def declareType (s : Session) (p : Place) (d : Decl) (target : String) (type : DeclaredType) :
    Session :=
  { s with types := s.types.register target type }.emitType p d target

theorem declareType_eq (s : Session) (p : Place) (d : Decl) (target : String)
    (type : DeclaredType) :
    ∃ emitted package, s.declareType p d target type =
      { s with types := s.types.register target type, emitted, package } :=
  emitType_eq { s with types := s.types.register target type } p d target

@[simp] theorem types_declareType (s : Session) (p : Place) (d : Decl) (target : String)
    (type : DeclaredType) :
    (s.declareType p d target type).types = s.types.register target type :=
  types_emitType { s with types := s.types.register target type } p d target

/-- Registers the name of a record before its fields are converted, so that they may refer to the
record itself. -/
def openRecord (s : Session) (target : String) : Session :=
  { s with types := s.types.register target ⟨.struct, .struct []⟩ }

def completeRecord (s : Session) (target : String) (fields : List (Slot TargetType)) : Session :=
  { s with types := s.types.update target (.struct fields) }

def withdrawRecord (s : Session) (target : String) : Session :=
  { s with types := s.types.erase target }

/-- A record that is withdrawn leaves no trace, not even in the order of the types. -/
theorem withdrawRecord_openRecord {s : Session} {target : String} (h : target ∉ s.types) :
    (s.openRecord target).withdrawRecord target = s := by
  simp only [openRecord, withdrawRecord, Registry.erase_register h]

theorem completeRecord_openRecord {s : Session} {target : String} (h : target ∉ s.types)
    (fields : List (Slot TargetType)) :
    (s.openRecord target).completeRecord target fields =
      { s with types := s.types.register target ⟨.struct, .struct fields⟩ } := by
  simp only [openRecord, completeRecord, Registry.update_register h]

/-- Visits a record. If one of its fields cannot be converted, its name is free again. -/
def visitRecord (s : Session) (p : Place) (d : Decl) (name : String) (tag : Tag)
    (body : List (Slot CType)) : Session :=
  if name = "" then s
  else
    let target := s.rules.typeName name
    if target ∈ s.types then s.emitType p d target
    else
      let opened := s.openRecord target
      match opened.converter.record tag body with
      | .ok fields => (opened.completeRecord target fields).emitType p d target
      | .error cause => (opened.withdrawRecord target).skip p d (p.qualified name) cause

/-- Whether a typedef gives a tagged type the name that it has anyway. -/
def renamesTag (s : Session) (target : String) : CType → Bool
  | .named ref => ref.tag.isSome && s.rules.typeName ref.name = target
  | _ => false

/-- Visits a typedef. One of a known name or of a type's own name declares nothing. -/
def visitTypedef (s : Session) (p : Place) (d : Decl) (name : String) (underlying : CType) :
    Session :=
  let target := s.rules.typeName name
  if (Catalog.typedef? (s.rules.trim name)).isSome || s.renamesTag target underlying then s
  else if target ∈ s.types then s.emitType p d target
  else
    match s.converter.type false underlying with
    | .error cause => s.skip p d (p.qualified name) cause
    | .ok type =>
      match type with
      | .named own =>
        if own = target then s else s.declareType p d target ⟨.alias, .named own⟩
      | type => s.declareType p d target ⟨.alias, type⟩

/-! ### Enumerations -/

def declareEnum (s : Session) (p : Place) (d : Decl) (name : Option String) : Session :=
  match name.filter (· ≠ "") with
  | some name => s.declareType p d (s.rules.typeName name) ⟨.enum, Catalog.enumType⟩
  | none => s

/-- An enumeration without a name changes nothing, and one with a name is declared like any other
type. -/
theorem declareEnum_cases (s : Session) (p : Place) (d : Decl) (name : Option String) :
    s.declareEnum p d name = s ∨
      ∃ target, s.declareEnum p d name = s.declareType p d target ⟨.enum, Catalog.enumType⟩ := by
  unfold declareEnum
  split
  · exact .inr ⟨_, rfl⟩
  · exact .inl rfl

theorem declareEnum_eq (s : Session) (p : Place) (d : Decl) (name : Option String) :
    ∃ types emitted package, s.declareEnum p d name = { s with types, emitted, package } := by
  rcases declareEnum_cases s p d name with h | ⟨target, h⟩
  · exact ⟨s.types, s.emitted, s.package, h⟩
  · obtain ⟨emitted, package, htype⟩ := declareType_eq s p d target ⟨.enum, Catalog.enumType⟩
    exact ⟨_, emitted, package, h.trans htype⟩

/-- The name of an enumerator: behind the name of its enumeration, if that has one. -/
def enumeratorName (s : Session) (enum : Option String) (name : String) : String :=
  match enum.filter (· ≠ "") with
  | some enum => Enumeration.constPrefix (s.rules.trim enum) ++ "_" ++ name
  | none => name

/-- Binds the enumerators of an enumeration of the header, with their values. -/
def bindEnumerators (s : Session) (p : Place) (d : Decl) (name : Option String)
    (items : List (Enumerator × Int64)) : Session :=
  if p.emits && p.holds d then
    let bindings := items.map fun e =>
      Binding.const ⟨s.enumeratorName name e.1.name, e.2, Catalog.enumType⟩
    { s with package := bindings.foldl (·.push p.file ·) s.package }
  else s

theorem bindEnumerators_eq (s : Session) (p : Place) (d : Decl) (name : Option String)
    (items : List (Enumerator × Int64)) :
    ∃ package, s.bindEnumerators p d name items = { s with package } := by
  unfold bindEnumerators
  split
  · exact ⟨_, rfl⟩
  · exact ⟨s.package, rfl⟩

@[simp] theorem types_bindEnumerators (s : Session) (p : Place) (d : Decl) (name : Option String)
    (items : List (Enumerator × Int64)) :
    (s.bindEnumerators p d name items).types = s.types := by
  obtain ⟨package, h⟩ := bindEnumerators_eq s p d name items
  rw [h]

@[simp] theorem emitted_bindEnumerators (s : Session) (p : Place) (d : Decl) (name : Option String)
    (items : List (Enumerator × Int64)) :
    (s.bindEnumerators p d name items).emitted = s.emitted := by
  obtain ⟨package, h⟩ := bindEnumerators_eq s p d name items
  rw [h]

def visitEnum (s : Session) (p : Place) (d : Decl) (name : Option String)
    (items : List Enumerator) : Session :=
  match Enumeration.values items with
  | .error cause => s.skip p d (p.qualified (name.getD "(anonymous enum)")) cause
  | .ok values => (s.declareEnum p d name).bindEnumerators p d name (items.zip values)

/-! ### Any declaration -/

/-- Visits a declaration, without those nested in it. -/
def visit (s : Session) (p : Place) (d : Decl) : Session :=
  match d.kind with
  | .record name tag body => s.visitRecord p d name tag body
  | .function f => s.visitFunction p d f
  | .enum name items => s.visitEnum p d name items
  | .typedef name underlying => s.visitTypedef p d name underlying
  | .scope _ | .linkage | .unknown _ => s

/-- Whether a visit ends. Only the body of a record whose name is free is measured. -/
def visitEnds (s : Session) (d : Decl) : Bool :=
  match d.kind with
  | .record name tag body =>
    let target := s.rules.typeName name
    name = "" || target ∈ s.types || (s.openRecord target).converter.recordEnds tag body
  | _ => true

end Session

end HeaderBindings
