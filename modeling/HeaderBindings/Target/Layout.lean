import HeaderBindings.Target.Type

/-!
# Size and alignment

How much space a target type takes where pointers and `long` have 64 bits. Every field of a struct
stands at the next multiple of its alignment, and a struct ends at a multiple of its own. Types that
contain themselves by value have no layout, so the layout of a named type is a parameter that may be
absent.

Sizes are unsigned numbers of 64 bits themselves. The size of an array that is too large stays at
the largest one, but the offsets in a struct wrap around, both where a field is added (`addField`)
and where an offset is rounded (`alignUp`). A struct that is too large is therefore measured by the
rest that its size leaves modulo 2^64.

`le_roundUp`, `dvd_roundUp` and `roundUp_le` say together that `roundUp` gives the least multiple
that is not below an offset, and `wrap_roundUp_wrap` that it makes no difference whether an offset
wraps around before or after it is rounded: what it is rounded to are multiples of powers of two.
-/

namespace HeaderBindings

/-- The size and the alignment of a type, in bytes. -/
structure Layout where
  size : Nat
  align : Nat
  deriving Repr, DecidableEq

def wordSize : Nat := 8

namespace Layout

def word : Layout := ⟨wordSize, wordSize⟩

/-- The numbers below this one are sizes. -/
def sizeBound : Nat := UInt64.size

/-- The largest size. -/
def maxSize : Nat := sizeBound - 1

/-- The size that is left of a number when it wraps around. -/
def wrap (n : Nat) : Nat := n % sizeBound

theorem wrap_lt (n : Nat) : wrap n < sizeBound := Nat.mod_lt n (by decide)

theorem wrap_of_lt {n : Nat} (h : n < sizeBound) : wrap n = n := Nat.mod_eq_of_lt h

theorem wrap_wrap_add (m n : Nat) : wrap (wrap m + n) = wrap (m + n) :=
  Nat.mod_add_mod m sizeBound n

/-- What divides a number divides what is left of it, if it divides the bound. -/
theorem dvd_wrap {align n : Nat} (halign : align ∣ sizeBound) (h : align ∣ n) : align ∣ wrap n :=
  (Nat.dvd_mod_iff halign).2 h

/-! ### Rounding -/

/-- The least multiple of `align` that is at least `offset`. -/
def roundUp (offset align : Nat) : Nat :=
  if align ≤ 1 then offset else (offset + align - 1) / align * align

theorem le_roundUp (offset align : Nat) : offset ≤ roundUp offset align := by
  unfold roundUp
  split
  · exact Nat.le_refl _
  · next h =>
    have hd := Nat.div_add_mod (offset + align - 1) align
    have hm := Nat.mod_lt (offset + align - 1) (by omega : 0 < align)
    rw [Nat.mul_comm] at hd
    omega

theorem dvd_roundUp {align : Nat} (h : 0 < align) (offset : Nat) :
    align ∣ roundUp offset align := by
  unfold roundUp
  split
  · cases (by omega : align = 1)
    exact Nat.one_dvd offset
  · exact Nat.dvd_mul_left align _

/-- No multiple of the alignment between an offset and what it is rounded up to is skipped. -/
theorem roundUp_le {offset align stop : Nat} (h : offset ≤ stop) (hd : align ∣ stop) :
    roundUp offset align ≤ stop := by
  obtain ⟨n, rfl⟩ := hd
  unfold roundUp
  split
  · exact h
  · have hn : (offset + align - 1) / align < n + 1 := by
      rw [Nat.div_lt_iff_lt_mul (by omega), Nat.succ_mul, Nat.mul_comm n]
      omega
    rw [Nat.mul_comm align n]
    exact Nat.mul_le_mul_right align (Nat.lt_succ_iff.1 hn)

/-- A multiple of the alignment is not rounded. -/
theorem roundUp_of_dvd {offset align : Nat} (h : align ∣ offset) : roundUp offset align = offset :=
  Nat.le_antisymm (roundUp_le (Nat.le_refl offset) h) (le_roundUp offset align)

/-- A multiple of the alignment in front of an offset is not rounded either. -/
theorem roundUp_add {align n : Nat} (h : align ∣ n) (offset : Nat) :
    roundUp (offset + n) align = roundUp offset align + n := by
  obtain ⟨k, rfl⟩ := h
  unfold roundUp
  split
  · rfl
  · have hcomm : offset + align * k + align - 1 = offset + align - 1 + align * k := by omega
    rw [hcomm, Nat.add_mul_div_left _ _ (by omega), Nat.add_mul, Nat.mul_comm k]

/-- **Rounding commutes with wrapping around** if the bound is a multiple of the alignment. -/
theorem wrap_roundUp_wrap {align : Nat} (h : align ∣ sizeBound) (offset : Nat) :
    wrap (roundUp (wrap offset) align) = wrap (roundUp offset align) := by
  have hturns : align ∣ sizeBound * (offset / sizeBound) := Nat.dvd_mul_right_of_dvd h _
  calc wrap (roundUp (wrap offset) align)
      = wrap (roundUp (wrap offset) align + sizeBound * (offset / sizeBound)) :=
        (Nat.add_mul_mod_self_left _ _ _).symm
    _ = wrap (roundUp (wrap offset + sizeBound * (offset / sizeBound)) align) := by
        rw [roundUp_add hturns]
    _ = wrap (roundUp offset align) := by
        rw [wrap, wrap, wrap, Nat.mod_add_div]

/-! ### Arrays and structs -/

/-- The offset of 64 bits to which an offset is rounded up. -/
def alignUp (offset align : Nat) : Nat := wrap (roundUp offset align)

/-- `length` elements in a row. The size stays at the largest one once it is reached. -/
def array (elem : Layout) (length : Nat) : Layout :=
  ⟨min (elem.size * length) maxSize, elem.align⟩

/-- Where a struct ends, and its alignment so far, after one more field. -/
def addField (soFar field : Layout) : Layout :=
  ⟨wrap (alignUp soFar.size field.align + field.size), max soFar.align field.align⟩

def struct (fields : List Layout) : Layout :=
  let body := fields.foldl addField ⟨0, 1⟩
  ⟨alignUp body.size body.align, body.align⟩

end Layout

/-- The layout of a scalar. A complex number is aligned like its parts. -/
def Scalar.layout : Scalar → Layout
  | bool | char | uint8 => ⟨1, 1⟩
  | int16 | uint16 => ⟨2, 2⟩
  | int32 | int | uint | float => ⟨4, 4⟩
  | long | ulong | longLong | ulongLong | double => ⟨8, 8⟩
  | complex64 => ⟨8, 4⟩
  | complex128 => ⟨16, 8⟩

namespace TargetType

mutual

/-- The layout of a type whose names have the layouts that `ofName?` gives. -/
def layout? (ofName? : String → Option Layout) : TargetType → Option Layout
  | void => some ⟨0, 1⟩
  | scalar s => some s.layout
  | opaquePointer => some .word
  | pointer _ => some .word
  | array elem length => (layout? ofName? elem).map (·.array length)
  | func _ => some .word
  | named name => ofName? name
  | struct fields => (layouts? ofName? fields).map Layout.struct
  | varArgs => some ⟨3 * wordSize, wordSize⟩

def layouts? (ofName? : String → Option Layout) : List (Slot TargetType) → Option (List Layout)
  | [] => some []
  | ⟨_, type⟩ :: rest => do
    let first ← layout? ofName? type
    let others ← layouts? ofName? rest
    return first :: others

end

end TargetType

end HeaderBindings
