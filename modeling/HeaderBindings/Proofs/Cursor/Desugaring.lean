import HeaderBindings.Cursor.Lowering
import HeaderBindings.Proofs.Cursor.Listing

/-!
# Trees without sugar around the types of typedefs

A keyword, a scope or an attribute in front of a type is sugar: it is a layer around the type, and
what the type describes is behind it. Taking the sugar off from the types of all typedefs keeps
everything that is looked up in a tree, so all that an outline declares stays the same
(`Outline.toDecl_desugar`).

The lowering of a tree has two stages, and only the second one is treated here.

* The first stage walks the tree and decides which declarations there will be. It reads the types of
  typedefs to find the tags that these name, and there sugar makes a difference; see
  `HeaderBindings.Proofs.Cursor.TypeSugar`.
* The second stage makes the declarations. It looks at types only to convert them, and a type is
  converted by what is behind its sugar (`CursorTree.type_desugared`).

## How the lemmas are ordered

Taking sugar off is a function on whole trees (`Cursor.desugar`), and so each function of the second
stage has one lemma that says how it commutes with it. They follow the calls from the bottom to the
top: the fields of a cursor, which are unchanged but for the type of a typedef and for the cursors
below (`kind_desugar` and its like, all of them `simp` lemmas); what is found by an identifier
(`find?_desugar`), and so declarations, definitions and parents; scopes, which follow parents;
types, by mutual induction with the types of parameters; and declarations, by mutual induction with
lists of these.

Sizes and heights do not change either (`size_desugar`, `height_desugar`). These are what the fuel
of the first stage is made of, so a tree and the same tree without sugar are walked with the same
fuel.
-/

namespace HeaderBindings

/-- The type behind all keywords, scopes and attributes around it. -/
def CursorType.desugared : CursorType → CursorType
  | elaborated named => desugared named
  | attributed modified => desugared modified
  | type => type

namespace Cursor

mutual

/-- A tree of cursors without sugar around the types that its typedefs name. -/
def desugar : Cursor → Cursor
  | c@{ params, children, underlying, .. } =>
    { c with
      underlying := underlying.desugared
      params := desugarAll params
      children := desugarAll children }

def desugarAll : List Cursor → List Cursor
  | [] => []
  | c :: rest => desugar c :: desugarAll rest

end

theorem desugarAll_eq_map (cs : List Cursor) : desugarAll cs = cs.map desugar := by
  induction cs with
  | nil => rfl
  | cons c rest ih => rw [desugarAll, ih, List.map_cons]

theorem desugar_eq (c : Cursor) : c.desugar =
    { c with
      underlying := c.underlying.desugared
      params := c.params.map desugar
      children := c.children.map desugar } := by
  cases c
  rw [desugar, desugarAll_eq_map, desugarAll_eq_map]

variable (c : Cursor)

@[simp] theorem kind_desugar : c.desugar.kind = c.kind := by rw [desugar_eq]

@[simp] theorem id?_desugar : c.desugar.id? = c.id? := by rw [desugar_eq]

@[simp] theorem spelling_desugar : c.desugar.spelling = c.spelling := by rw [desugar_eq]

@[simp] theorem usr_desugar : c.desugar.usr = c.usr := by rw [desugar_eq]

@[simp] theorem isAnonymous_desugar : c.desugar.isAnonymous = c.isAnonymous := by rw [desugar_eq]

@[simp] theorem location_desugar : c.desugar.location = c.location := by rw [desugar_eq]

@[simp] theorem definition_desugar : c.desugar.definition = c.definition := by rw [desugar_eq]

@[simp] theorem semanticParent_desugar : c.desugar.semanticParent = c.semanticParent := by
  rw [desugar_eq]

@[simp] theorem underlying_desugar : c.desugar.underlying = c.underlying.desugared := by
  rw [desugar_eq]

@[simp] theorem display_desugar : c.desugar.display = c.display := by rw [desugar_eq]

@[simp] theorem mangling_desugar : c.desugar.mangling = c.mangling := by rw [desugar_eq]

@[simp] theorem type_desugar : c.desugar.type = c.type := by rw [desugar_eq]

@[simp] theorem value_desugar : c.desugar.value = c.value := by rw [desugar_eq]

@[simp] theorem tellsParams_desugar : c.desugar.tellsParams = c.tellsParams := by rw [desugar_eq]

@[simp] theorem params_desugar : c.desugar.params = c.params.map desugar := by rw [desugar_eq]

@[simp] theorem children_desugar : c.desugar.children = c.children.map desugar := by
  rw [desugar_eq]

theorem desugar_none : none.desugar = none := by
  rw [desugar_eq]
  rfl

-- sizes and heights are sums and maxima over the cursors below, which are desugared one by one

theorem sizeOfAll_desugar {cs : List Cursor} (h : ∀ c ∈ cs, c.desugar.size = c.size) :
    sizeOfAll (cs.map desugar) = sizeOfAll cs := by
  induction cs with
  | nil => rfl
  | cons c rest ih =>
    have hrest := ih fun d hd => h d (List.mem_cons_of_mem c hd)
    rw [List.map_cons, sizeOfAll, sizeOfAll, h c List.mem_cons_self, hrest]

theorem size_desugar : c.desugar.size = c.size := by
  induction c using tree_ind with
  | step c hparams hchildren =>
    rw [size_eq, size_eq c, params_desugar, children_desugar, sizeOfAll_desugar hparams,
      sizeOfAll_desugar hchildren]

theorem heightOfAll_desugar {cs : List Cursor} (h : ∀ c ∈ cs, c.desugar.height = c.height) :
    heightOfAll (cs.map desugar) = heightOfAll cs := by
  induction cs with
  | nil => rfl
  | cons c rest ih =>
    have hrest := ih fun d hd => h d (List.mem_cons_of_mem c hd)
    rw [List.map_cons, heightOfAll, heightOfAll, h c List.mem_cons_self, hrest]

theorem height_desugar : c.desugar.height = c.height := by
  induction c using tree_ind with
  | step c hparams hchildren =>
    rw [height_eq, height_eq c, params_desugar, children_desugar, heightOfAll_desugar hparams,
      heightOfAll_desugar hchildren]

end Cursor

/-! ### What is looked up in a tree

Declarations are found by identifiers, and identifiers do not change. What is found has the cursors
above it along with it, since scopes are read off from them, and these lose their sugar, too.
-/

/-- A place without sugar, at the cursor and at those above it. -/
def CursorSite.desugar (s : CursorSite) : CursorSite :=
  ⟨s.cursor.desugar, s.above.map Cursor.desugar⟩

namespace CursorTree

def desugar (t : CursorTree) : CursorTree := ⟨t.root.desugar⟩

variable (t : CursorTree)

theorem findAmong_desugar {id : String} {above cs : List Cursor}
    (h : ∀ c ∈ cs, ∀ above, findBelow id (above.map Cursor.desugar) c.desugar =
      (findBelow id above c).map CursorSite.desugar) :
    findAmong id (above.map Cursor.desugar) (cs.map Cursor.desugar) =
      (findAmong id above cs).map CursorSite.desugar := by
  induction cs with
  | nil =>
    rw [List.map_nil, findAmong, findAmong]
    rfl
  | cons c rest ih =>
    have hrest := ih fun d hd => h d (List.mem_cons_of_mem c hd)
    rw [List.map_cons, findAmong, findAmong, h c List.mem_cons_self, hrest, Option.map_or]

theorem findBelow_desugar (id : String) (above : List Cursor) (c : Cursor) :
    findBelow id (above.map Cursor.desugar) c.desugar =
      (findBelow id above c).map CursorSite.desugar := by
  induction c using Cursor.tree_ind generalizing above with
  | step c hparams hchildren =>
    have hbelow : c.desugar :: above.map Cursor.desugar = (c :: above).map Cursor.desugar := rfl
    rw [findBelow_eq, findBelow_eq, Cursor.id?_desugar, Cursor.params_desugar,
      Cursor.children_desugar, hbelow, findAmong_desugar fun d hd above => hparams d hd above,
      findAmong_desugar fun d hd above => hchildren d hd above]
    split
    · rfl
    · rw [Option.map_or]

/-- **An identifier leads to the same place with sugar and without.** -/
theorem find?_desugar (id : String) : t.desugar.find? id = (t.find? id).map CursorSite.desugar :=
  findBelow_desugar id [] t.root

theorem declSite_desugar (id? : Option String) :
    t.desugar.declSite id? = (t.declSite id?).desugar := by
  have hnone : (⟨.none, []⟩ : CursorSite) = CursorSite.desugar ⟨.none, []⟩ := by
    rw [CursorSite.desugar, Cursor.desugar_none]
    rfl
  cases id? with
  | none => exact hnone
  | some id =>
    show (t.desugar.find? id).getD _ = ((t.find? id).getD _).desugar
    rw [find?_desugar]
    cases t.find? id with
    | none => exact hnone
    | some site => rfl

theorem decl_desugar (id? : Option String) : t.desugar.decl id? = (t.decl id?).desugar := by
  rw [decl, declSite_desugar]
  rfl

theorem definition_desugar (c : Cursor) :
    t.desugar.definition c.desugar = (t.definition c).desugar := by
  unfold definition
  rw [Cursor.definition_desugar]
  cases c.definition with
  | implied => rfl
  | absent => rfl
  | explicit id =>
    show ((t.desugar.find? id).map _).getD _ = (((t.find? id).map _).getD c).desugar
    rw [find?_desugar]
    cases t.find? id <;> rfl

theorem semanticParent?_desugar (s : CursorSite) :
    t.desugar.semanticParent? s.desugar = (t.semanticParent? s).map CursorSite.desugar := by
  obtain ⟨c, above⟩ := s
  unfold semanticParent?
  dsimp only [CursorSite.desugar]
  rw [Cursor.semanticParent_desugar]
  cases c.semanticParent with
  | implied => cases above <;> rfl
  | absent => rfl
  | explicit id => exact t.find?_desugar id

theorem scopeName?_desugar (c : Cursor) : scopeName? c.desugar = scopeName? c := by
  unfold scopeName?
  rw [Cursor.isAnonymous_desugar, Cursor.kind_desugar, Cursor.spelling_desugar]

/-- The scopes around a place are the same, by induction on the fuel: a step goes to the parent,
which is the same cursor up to sugar. -/
theorem scopesAbove_desugar (fuel : Nat) (s : CursorSite) :
    t.desugar.scopesAbove fuel s.desugar = t.scopesAbove fuel s := by
  induction fuel generalizing s with
  | zero => rfl
  | succ fuel ih =>
    rw [scopesAbove, scopesAbove, semanticParent?_desugar]
    cases t.semanticParent? s with
    | none => rfl
    | some parent =>
      show (if parent.cursor.desugar.kind = .unit then [] else
        (scopeName? parent.cursor.desugar).toList ++ t.desugar.scopesAbove fuel parent.desugar) = _
      rw [Cursor.kind_desugar, scopeName?_desugar, ih]

theorem scope_desugar (s : CursorSite) : t.desugar.scope s.desugar = t.scope s := by
  have hsize : t.desugar.root.size = t.root.size := Cursor.size_desugar t.root
  rw [scope, scope, hsize, scopesAbove_desugar]

/-! ### Types and declarations

From here on everything is made of what has been looked up: the names, scopes and kinds of cursors.
The types of fields, parameters and results are kept with their sugar in both trees, and are
converted alike because only declarations are looked up for them.
-/

/-- **A type is converted by what is behind the sugar.** -/
theorem type_desugared (type : CursorType) : t.type type.desugared = t.type type := by
  induction type using CursorType.desugared.induct with
  | case1 named ih => rw [CursorType.desugared, ih, CursorTree.type]
  | case2 modified ih => rw [CursorType.desugared, ih, CursorTree.type]
  | case3 type helaborated hattributed =>
    rw [CursorType.desugared.eq_3 type helaborated hattributed]

theorem taggedRef_desugar (decl : Option String) : t.desugar.taggedRef decl = t.taggedRef decl := by
  unfold taggedRef
  dsimp only
  rw [declSite_desugar, scope_desugar]
  show CType.named ⟨if (t.declSite decl).cursor.desugar.isAnonymous then "" else
    (t.declSite decl).cursor.desugar.spelling, _, some (tagOf (t.declSite decl).cursor.desugar)⟩ = _
  unfold tagOf
  rw [Cursor.isAnonymous_desugar, Cursor.spelling_desugar, Cursor.kind_desugar]

-- by induction on types together with lists of parameter types: only declarations are looked up

mutual

/-- **The declared type that a type describes is the same in both trees.** -/
theorem type_desugar : ∀ type : CursorType, t.desugar.type type = t.type type
  | .scalar b => by rw [type, type]
  | .complex elem => by rw [type, type]
  | .pointer pointee => by rw [type, type, type_desugar pointee]
  | .array elem size => by rw [type, type, type_desugar elem]
  | .function ps isVariadic result => by
    rw [type, type, paramTypes_desugar ps, type_desugar result]
  | .elaborated named => by rw [type, type, type_desugar named]
  | .attributed modified => by rw [type, type, type_desugar modified]
  | .typedef decl => by
    rw [type, type, declSite_desugar, scope_desugar]
    show CType.named ⟨(t.declSite decl).cursor.desugar.spelling, _, none⟩ = _
    rw [Cursor.spelling_desugar]
  | .record decl => by rw [type, type, taggedRef_desugar]
  | .enum decl => by rw [type, type, taggedRef_desugar]
  | .unexposed spelling none => by rw [type, type]
  | .unexposed spelling (some canonical) => by
    have hcanonical := type_desugar canonical
    cases canonical with
    | unexposed inner further => rfl
    | _ => exact hcanonical
  | .other spelling => by rw [type, type]

theorem paramTypes_desugar : ∀ ps : List CursorType, t.desugar.paramTypes ps = t.paramTypes ps
  | [] => by rw [paramTypes, paramTypes]
  | p :: rest => by rw [paramTypes, paramTypes, type_desugar p, paramTypes_desugar rest]

end

/-- The cursors of one kind are the same, up to sugar. -/
theorem filter_kind_desugar (kind : CursorKind) (cs : List Cursor) :
    (cs.map Cursor.desugar).filter (fun c => c.kind = kind) =
      (cs.filter fun c => c.kind = kind).map Cursor.desugar := by
  rw [List.filter_map]
  congr 1
  apply List.filter_congr
  intro c _
  simp

theorem fields_desugar (c : Cursor) : t.desugar.fields c.desugar = t.fields c := by
  unfold fields
  rw [Cursor.children_desugar, filter_kind_desugar, List.map_map]
  apply List.map_congr_left
  intro child _
  simp [type_desugar]

theorem enumerators_desugar (c : Cursor) : enumerators c.desugar = enumerators c := by
  unfold enumerators
  rw [Cursor.children_desugar, filter_kind_desugar, List.map_map]
  apply List.map_congr_left
  intro child _
  simp

theorem params_desugar (c : Cursor) : t.desugar.params c.desugar = t.params c := by
  unfold params
  rw [Cursor.tellsParams_desugar, Cursor.params_desugar, List.map_map]
  congr 1
  apply List.map_congr_left
  intro param _
  simp [type_desugar]

theorem functionDecl_desugar (kind : FunctionKind) (c : Cursor) :
    t.desugar.functionDecl kind c.desugar = t.functionDecl kind c := by
  unfold functionDecl
  rw [params_desugar]
  simp [type_desugar]

theorem recordTagOf_desugar (c : Cursor) : recordTagOf c.desugar = recordTagOf c := by
  unfold recordTagOf tagOf
  rw [Cursor.kind_desugar]

theorem declAt_desugar (c : Cursor) (kind : DeclKind) (children : List Decl) :
    declAt c.desugar kind children = declAt c kind children := by
  rw [Cursor.desugar_eq]
  rfl

end CursorTree

namespace Outline

mutual

def desugar : Outline → Outline
  | .scope c inner => .scope c.desugar (desugarAll inner)
  | .linkage c inner => .linkage c.desugar (desugarAll inner)
  | .record name c definition inner =>
    .record name c.desugar definition.desugar (desugarAll inner)
  | .enum name c => .enum name c.desugar
  | .function kind c => .function kind c.desugar
  | .typedef c => .typedef c.desugar
  | .unknown c => .unknown c.desugar

def desugarAll : List Outline → List Outline
  | [] => []
  | o :: rest => desugar o :: desugarAll rest

end

theorem desugarAll_append (first second : List Outline) :
    desugarAll (first ++ second) = desugarAll first ++ desugarAll second := by
  induction first with
  | nil => rfl
  | cons o rest ih => rw [List.cons_append, desugarAll, desugarAll, ih, List.cons_append]

open CursorTree

mutual

/-- **An outline declares the same without sugar.** -/
theorem toDecl_desugar (t : CursorTree) : ∀ o : Outline, toDecl t.desugar o.desugar = toDecl t o
  | .scope c inner => by
    rw [desugar, toDecl, toDecl, declAt_desugar, toDecls_desugar t inner,
      Cursor.isAnonymous_desugar, Cursor.spelling_desugar]
  | .linkage c inner => by
    rw [desugar, toDecl, toDecl, declAt_desugar, toDecls_desugar t inner]
  | .record name c definition inner => by
    rw [desugar, toDecl, toDecl, declAt_desugar, toDecls_desugar t inner, recordTagOf_desugar,
      fields_desugar]
  | .enum name c => by rw [desugar, toDecl, toDecl, declAt_desugar, enumerators_desugar]
  | .function kind c => by rw [desugar, toDecl, toDecl, declAt_desugar, functionDecl_desugar]
  | .typedef c => by
    rw [desugar, toDecl, toDecl, declAt_desugar, Cursor.spelling_desugar, Cursor.underlying_desugar,
      type_desugar, type_desugared]
  | .unknown c => by rw [desugar, toDecl, toDecl, declAt_desugar, Cursor.kind_desugar]

theorem toDecls_desugar (t : CursorTree) : ∀ os : List Outline,
    toDecls t.desugar (desugarAll os) = toDecls t os
  | [] => by rw [desugarAll, toDecls, toDecls]
  | o :: rest => by rw [desugarAll, toDecls, toDecls, toDecl_desugar t o, toDecls_desugar t rest]

end

end Outline

end HeaderBindings
