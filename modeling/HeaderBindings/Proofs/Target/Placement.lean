import HeaderBindings.Proofs.Target.Alignment
import Mathlib.Algebra.Group.Nat.Defs

/-!
# Structs waste no space

The fields of a struct may stand at any offsets that keep their order, do not let them overlap, and
respect their alignments (`Layout.Placed`). The layout of a struct takes the first free offset for
each field in turn, so that the fields end where `Layout.tightEnd` says. No other choice ends
earlier: by induction on the fields, what is placed so far ends no later than under any other choice
of offsets (`Layout.Placed.tightEnd_le`).

## Numbers of 64 bits

A place is a number without a bound here, and an offset that is computed is what is left of it
modulo 2^64. Nothing but the last place has to be looked at: alignments divide 2^64, so whether an
offset wraps around on the way makes no difference to the rest in the end
(`Layout.size_foldl_addField`). So the size of a struct is always the rest that is left of the least
place at which the struct can end. It is this place itself if there is any way to place the fields
below 2^64 (`Registry.struct_smallest`).
-/

namespace HeaderBindings

namespace Layout

/-- Fields stand one behind the other at some offsets, between a start and a stop, each at a
multiple of its alignment. -/
inductive Placed : Nat → List Layout → List Nat → Nat → Prop where
  | nil {start stop : Nat} : start ≤ stop → Placed start [] [] stop
  | cons {start offset stop : Nat} {field : Layout} {rest : List Layout} {offsets : List Nat} :
    start ≤ offset → field.align ∣ offset → Placed (offset + field.size) rest offsets stop →
      Placed start (field :: rest) (offset :: offsets) stop

/-- There may be room behind the last field. -/
theorem Placed.mono {start stop stop' : Nat} {fields : List Layout} {offsets : List Nat}
    (h : Placed start fields offsets stop) (hstop : stop ≤ stop') :
    Placed start fields offsets stop' := by
  induction h with
  | nil hle => exact .nil (hle.trans hstop)
  | cons hle hdvd _ ih => exact .cons hle hdvd (ih hstop)

/-- Where fields end that begin at a place, with the first free offset for each field in turn. -/
def tightEnd (start : Nat) : List Layout → Nat
  | [] => start
  | field :: rest => tightEnd (roundUp start field.align + field.size) rest

theorem exists_placed_tightEnd {fields : List Layout} (h : ∀ field ∈ fields, 0 < field.align)
    (start : Nat) : ∃ offsets, Placed start fields offsets (tightEnd start fields) := by
  induction fields generalizing start with
  | nil => exact ⟨[], .nil (Nat.le_refl start)⟩
  | cons field rest ih =>
    obtain ⟨hfield, hrest⟩ := List.forall_mem_cons.1 h
    obtain ⟨offsets, hoffsets⟩ := ih hrest (roundUp start field.align + field.size)
    exact ⟨roundUp start field.align :: offsets,
      .cons (le_roundUp _ _) (dvd_roundUp hfield _) hoffsets⟩

/-- **Whatever offsets are chosen, the fields do not end earlier.** What is placed so far ends no
later than the offsets begin, and this stays so with each field. -/
theorem Placed.tightEnd_le {start stop : Nat} {fields : List Layout} {offsets : List Nat}
    (h : Placed start fields offsets stop) {first : Nat} (hfirst : first ≤ start) :
    tightEnd first fields ≤ stop := by
  induction h generalizing first with
  | nil hle => exact hfirst.trans hle
  | @cons start offset stop field rest offsets hle hdvd _ ih =>
    apply ih
    show roundUp first field.align + field.size ≤ offset + field.size
    exact Nat.add_le_add_right (roundUp_le (hfirst.trans hle) hdvd) _

/-- **No place at which a struct can end is in front of the one that is computed.** -/
theorem isLeast_roundUp_tightEnd {fields : List Layout} (h : ∀ field ∈ fields, 0 < field.align)
    {align : Nat} (halign : 0 < align) :
    IsLeast {stop | align ∣ stop ∧ ∃ offsets, Placed 0 fields offsets stop}
      (roundUp (tightEnd 0 fields) align) := by
  obtain ⟨offsets, hoffsets⟩ := exists_placed_tightEnd h 0
  refine ⟨⟨dvd_roundUp halign _, offsets, hoffsets.mono (le_roundUp _ _)⟩, ?_⟩
  rintro stop ⟨hdvd, others, hothers⟩
  exact roundUp_le (hothers.tightEnd_le (Nat.le_refl 0)) hdvd

/-! ### Offsets that wrap around -/

/-- What is computed for the fields is what is left of the place where they end, by induction on the
fields: the invariant is that so much was left of the place where they begin. -/
theorem size_foldl_addField {fields : List Layout} (h : ∀ field ∈ fields, field.align ∣ sizeBound)
    (start align : Nat) :
    (fields.foldl addField ⟨wrap start, align⟩).size = wrap (tightEnd start fields) := by
  induction fields generalizing start align with
  | nil => rfl
  | cons field rest ih =>
    obtain ⟨hfield, hrest⟩ := List.forall_mem_cons.1 h
    have hoffset : wrap (alignUp (wrap start) field.align + field.size) =
        wrap (roundUp start field.align + field.size) := by
      rw [alignUp, wrap_roundUp_wrap hfield, wrap_wrap_add]
    rw [List.foldl_cons, addField, hoffset]
    exact ih hrest _ _

theorem size_struct {fields : List Layout} (h : ∀ field ∈ fields, field.align ∣ sizeBound)
    (hstruct : (struct fields).align ∣ sizeBound) :
    (struct fields).size = wrap (roundUp (tightEnd 0 fields) (struct fields).align) := by
  have hbody : (fields.foldl addField ⟨0, 1⟩).size = wrap (tightEnd 0 fields) :=
    size_foldl_addField h 0 1
  rw [← wrap_roundUp_wrap hstruct, ← hbody]
  rfl

end Layout

namespace Registry

variable {r : Registry}

/-- Where the fields of a struct may end that stand one behind the other, each at a multiple of its
alignment. The struct itself ends at a multiple of its own. -/
def NaturalEnds (r : Registry) (fields : List (Slot TargetType)) : Set Nat :=
  {stop | r.alignOf (.struct fields) ∣ stop ∧
    ∃ offsets, Layout.Placed 0 (fields.map fun slot => r.layout slot.type) offsets stop}

/-- **The layout of a struct is the smallest natural one.**

Where measuring ends, a struct is aligned to the greatest among 1 and the alignments of its fields.
There is a least place at which it can end, and its size is what is left of this place in 64 bits.
So if the struct can end below 2^64 at all, its size is the least place at which it can. It is zero
without fields. -/
theorem struct_smallest (h : WellFounded r.MeasuredFor) (fields : List (Slot TargetType)) :
    IsGreatest (insert 1 {align | ∃ slot ∈ fields, r.alignOf slot.type = align})
      (r.alignOf (.struct fields)) ∧
    (∃ stop, IsLeast (r.NaturalEnds fields) stop ∧ r.sizeOf (.struct fields) = stop % 2 ^ 64) ∧
    ((∃ stop ∈ r.NaturalEnds fields, stop < 2 ^ 64) →
      IsLeast (r.NaturalEnds fields) (r.sizeOf (.struct fields))) ∧
    (fields = [] → r.sizeOf (.struct fields) = 0) := by
  have hpos : ∀ field ∈ fields.map fun slot => r.layout slot.type, 0 < field.align := by
    intro field hfield
    obtain ⟨slot, -, rfl⟩ := List.mem_map.1 hfield
    exact align_pos_of_wellFounded h slot.type
  have hbound : ∀ field ∈ fields.map fun slot => r.layout slot.type,
      field.align ∣ Layout.sizeBound := by
    intro field hfield
    obtain ⟨slot, -, rfl⟩ := List.mem_map.1 hfield
    exact align_dvd_sizeBound h slot.type
  have hstruct := layout_struct h fields
  have hleast : IsLeast (r.NaturalEnds fields) (Layout.roundUp
      (Layout.tightEnd 0 (fields.map fun slot => r.layout slot.type))
      (r.alignOf (.struct fields))) :=
    Layout.isLeast_roundUp_tightEnd hpos (align_pos_of_wellFounded h _)
  have hsize : r.sizeOf (.struct fields) = Layout.wrap (Layout.roundUp
      (Layout.tightEnd 0 (fields.map fun slot => r.layout slot.type))
      (r.alignOf (.struct fields))) := by
    have hown := align_dvd_sizeBound h (.struct fields)
    rw [hstruct] at hown
    rw [sizeOf, alignOf, hstruct]
    exact Layout.size_struct hbound hown
  refine ⟨?_, ⟨_, hleast, hsize⟩, ?_, ?_⟩
  · have hgreatest := Layout.isGreatest_align_struct (fields.map fun slot => r.layout slot.type)
    simp only [List.mem_map, exists_exists_and_eq_and] at hgreatest
    rw [alignOf, hstruct]
    exact hgreatest
  · rintro ⟨stop, hstop, hlt⟩
    -- the least place is below the one that fits, so that nothing wraps around
    rw [hsize, Layout.wrap_of_lt (Nat.lt_of_le_of_lt (hleast.2 hstop) hlt)]
    exact hleast
  · rintro rfl
    rw [sizeOf, hstruct]
    rfl

/-- A character, a `double` and a registered struct of 12 bytes. -/
def probe : List (Slot TargetType) :=
  [⟨some "tag", .scalar .char⟩, ⟨some "mass", .scalar .double⟩, ⟨some "at", .named "Vec3"⟩]

/-- The fields would fit into 24 bytes in another order, but not in this one. -/
theorem struct_smallest_probe :
    WellFounded boneTypes.MeasuredFor ∧ boneTypes.alignOf (.struct probe) = 8 ∧
    boneTypes.sizeOf (.struct probe) = 32 ∧ 40 ∈ boneTypes.NaturalEnds probe ∧
    ∀ offsets, ¬ Layout.Placed 0 [⟨1, 1⟩, ⟨8, 8⟩, ⟨12, 4⟩] offsets 24 := by
  have hprobe : 40 ∈ boneTypes.NaturalEnds probe := by
    have hplaced : Layout.Placed 0 [⟨1, 1⟩, ⟨8, 8⟩, ⟨12, 4⟩] [0, 8, 16] 40 :=
      .cons (by decide) (by decide) (.cons (by decide) (by decide)
        (.cons (by decide) (by decide) (.nil (by decide))))
    exact ⟨by decide, _, hplaced⟩
  have hleast := (struct_smallest wellFounded_boneTypes probe).2.2.1 ⟨40, hprobe, by decide⟩
  refine ⟨wellFounded_boneTypes, by decide, by decide, hprobe, ?_⟩
  intro offsets hplaced
  have hle : 32 ≤ 24 := hleast.2 ⟨by decide, offsets, hplaced⟩
  exact absurd hle (by decide)

/-- Two arrays of half the largest size each, and a number behind them that begins again at zero. -/
example : (∅ : Registry).sizeOf (.struct [⟨some "a", .array (.scalar .uint8) (2 ^ 63)⟩,
    ⟨some "b", .array (.scalar .uint8) (2 ^ 63)⟩, ⟨some "n", .scalar .int16⟩]) = 2 := by
  decide

end Registry

end HeaderBindings
