import HeaderBindings.Text.Utf8

/-!
# Text as bytes and back

A text that is written as UTF-8 is UTF-8 throughout, and it is read as the same text
(`decode?_encode`). The proof follows the four lengths of a character: its first byte announces how
many bytes follow and holds the leading bits, and the bounds of the second byte leave out no
character.

Reading is written as a machine over bytes: the first byte of a character announces how many more
belong to it and between which bounds the second one lies, and a run of bytes that does not fit is
replaced. For bytes that were written as a text the machine never comes to that case. What has to be
shown is arithmetic on the bits of one character, once for each length, and that reading a character
leaves the bytes behind it alone.
-/

namespace HeaderBindings.Text

/-! ### The bytes of a text

The bytes of a text are those of its characters, one after the other.
-/

theorem toList_loop_eq (bytes : ByteArray) (i : Nat) (before : List UInt8) :
    ByteArray.toList.loop bytes i before = before.reverse ++ bytes.data.toList.drop i := by
  fun_induction ByteArray.toList.loop bytes i before with
  | case1 i before h ih =>
    have hlt : i < bytes.data.toList.length := by simpa using h
    rw [ih, List.drop_eq_getElem_cons hlt]
    simp [ByteArray.get!, h]
  | case2 i before h =>
    have hle : bytes.data.toList.length ≤ i := by simpa using h
    rw [List.drop_of_length_le hle, List.append_nil]

/-- A text is written character by character. -/
theorem encode_eq_flatMap (s : String) : encode s = s.toList.flatMap String.utf8EncodeChar := by
  have hbytes : s.toUTF8 = (s.toList.flatMap String.utf8EncodeChar).toByteArray := by
    rw [← String.ofList_toList (s := s)]
    simp only [String.toList_ofList]
    exact String.toByteArray_ofList
  rw [encode, hbytes, ByteArray.toList, toList_loop_eq, List.toList_data_toByteArray]
  rfl

/-! ### Reading a character

The bytes behind the first one are taken while they lie between the bounds, and as many as are
announced. What follows is read on its own.
-/

/-- The bytes of a character that have been read together with the first one are passed over. -/
theorem utf8PartsFrom_length (tail bs : List UInt8) :
    utf8PartsFrom tail.length (tail ++ bs) = utf8PartsFrom 0 bs := by
  induction tail with
  | nil => rfl
  | cons b tail ih => exact ih

theorem continuation_cons {lo hi : Nat} {b : UInt8} (h : lo ≤ b.toNat ∧ b.toNat ≤ hi) (n : Nat)
    (bs : List UInt8) :
    continuation lo hi (n + 1) (b :: bs) = b :: continuation 0x80 0xBF n bs := by
  rw [continuation, if_pos h]

theorem continuation_zero (lo hi : Nat) (bs : List UInt8) : continuation lo hi 0 bs = [] := by
  rw [continuation]
  exact nofun

/-- A first byte with as many more bytes as it announces is a character. -/
theorem utf8PartsFrom_append {b : UInt8} {lead : Lead} {tail bs : List UInt8}
    (hlead : lead? b = some lead)
    (htail : continuation lead.lo lead.hi lead.more (tail ++ bs) = tail)
    (hlength : tail.length = lead.more) :
    utf8PartsFrom 0 (b :: tail ++ bs) =
      .char (Char.ofNat (tail.foldl (fun n b => n * 64 + (b.toNat - 0x80)) lead.bits)) ::
        utf8PartsFrom 0 bs := by
  rw [List.cons_append, utf8PartsFrom]
  unfold utf8Part
  rw [hlead]
  dsimp only
  rw [htail, if_pos hlength]
  dsimp only
  rw [utf8PartsFrom_length]

/-! ### The first byte

One fact for each length. The first byte of a shorter character leaves fewer values than a byte has,
so each fact is checked for all of them.
-/

theorem lead?_one : ∀ n < 128, lead? (UInt8.ofNat n) = some { more := 0, bits := n } := by decide

theorem lead?_two : ∀ n < 32, 2 ≤ n →
    lead? (UInt8.ofNat (n + 192)) = some { more := 1, bits := n } := by
  decide

theorem lead?_three : ∀ n < 16, lead? (UInt8.ofNat (n + 224)) =
    some ⟨2, n, if n = 0 then 0xA0 else 0x80, if n = 13 then 0x9F else 0xBF⟩ := by
  decide

theorem lead?_four : ∀ n < 5, lead? (UInt8.ofNat (n + 240)) =
    some ⟨3, n, if n = 0 then 0x90 else 0x80, if n = 4 then 0x8F else 0xBF⟩ := by
  decide

/-! ### The bytes of a character

Behind the first byte each byte holds six bits. The bounds of the second byte exclude codes that a
shorter form would hold, the surrogates, and what lies above the last code; a character is none of
these.
-/

/-- The code of a character is none of those that are left to surrogates. -/
theorem toNat_bounds (c : Char) : c.toNat < 0xD800 ∨ 0xDFFF < c.toNat ∧ c.toNat < 0x110000 :=
  c.valid

theorem toNat_tail (n : Nat) : (UInt8.ofNat (n % 64 + 128)).toNat = n % 64 + 128 := by
  show (n % 64 + 128) % 256 = n % 64 + 128
  omega

theorem tail_bounds (n : Nat) :
    0x80 ≤ (UInt8.ofNat (n % 64 + 128)).toNat ∧ (UInt8.ofNat (n % 64 + 128)).toNat ≤ 0xBF := by
  rw [toNat_tail]
  omega

/-- **The bytes of a character are read as that character.** -/
theorem utf8PartsFrom_utf8EncodeChar (c : Char) (bs : List UInt8) :
    utf8PartsFrom 0 (String.utf8EncodeChar c ++ bs) = .char c :: utf8PartsFrom 0 bs := by
  have hbounds := toNat_bounds c
  have hchar : ∀ {n}, n = c.toNat → Utf8Part.char (Char.ofNat n) = .char c := by
    rintro _ rfl
    rw [Char.ofNat_toNat]
  unfold String.utf8EncodeChar
  dsimp only
  rw [show c.val.toNat = c.toNat from rfl]
  generalize c.toNat = v at *
  split
  · -- a byte of its own
    rw [utf8PartsFrom_append (lead?_one v (by omega)) (continuation_zero _ _ _) rfl, hchar]
    rfl
  · split
    · rw [utf8PartsFrom_append (lead?_two _ (by omega) (by omega)) ?_ rfl]
      · rw [hchar]
        simp only [List.foldl_cons, List.foldl_nil, toNat_tail]
        omega
      · dsimp only [List.cons_append, List.nil_append]
        rw [continuation_cons (tail_bounds v), continuation_zero]
    · split
      · rw [utf8PartsFrom_append (lead?_three _ (by omega)) ?_ rfl]
        · rw [hchar]
          simp only [List.foldl_cons, List.foldl_nil, toNat_tail]
          omega
        · dsimp only [List.cons_append, List.nil_append]
          rw [continuation_cons, continuation_cons (tail_bounds v), continuation_zero]
          -- the code is too large for two bytes, and that of no surrogate
          rw [toNat_tail]
          split <;> split <;> omega
      · rw [utf8PartsFrom_append (lead?_four _ (by omega)) ?_ rfl]
        · rw [hchar]
          simp only [List.foldl_cons, List.foldl_nil, toNat_tail]
          omega
        · dsimp only [List.cons_append, List.nil_append]
          rw [continuation_cons, continuation_cons (tail_bounds _),
            continuation_cons (tail_bounds v), continuation_zero]
          -- the code is too large for three bytes, and not above the last one
          rw [toNat_tail]
          split <;> split <;> omega

/-- The characters of a text are read one after the other. -/
theorem utf8Parts_flatMap (cs : List Char) :
    utf8Parts (cs.flatMap String.utf8EncodeChar) = cs.map .char := by
  induction cs with
  | nil => rfl
  | cons c cs ih =>
    rw [utf8Parts, List.flatMap_cons, utf8PartsFrom_utf8EncodeChar, List.map_cons, ← ih]
    rfl

theorem mapM_char? (cs : List Char) : (cs.map Utf8Part.char).mapM Utf8Part.char? = some cs := by
  induction cs with
  | nil => rfl
  | cons c cs ih =>
    rw [List.map_cons, List.mapM_cons, ih]
    rfl

/-- **A text that is written as bytes is read back.** -/
theorem decode?_encode (s : String) : decode? (encode s) = some s := by
  rw [decode?, encode_eq_flatMap, utf8Parts_flatMap, mapM_char?, Option.map_some,
    String.ofList_toList]

end HeaderBindings.Text
