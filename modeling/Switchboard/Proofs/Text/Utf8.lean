/-!
# Texts as bytes

The bytes of a text are those of its characters, one after the other (`toList_toUTF8`), and bytes
are a text exactly if they are the bytes of one (`fromUTF8?_eq_some_iff`).
-/

namespace Switchboard.Text

/-- The loop collects the bytes from an index on. -/
theorem toList_loop (bytes : ByteArray) (index : Nat) (done : List UInt8) :
    ByteArray.toList.loop bytes index done = done.reverse ++ bytes.data.toList.drop index := by
  fun_induction ByteArray.toList.loop bytes index done with
  | case1 index done inside ih =>
    have bounded : index < bytes.data.toList.length := by simpa using inside
    rw [ih, List.drop_eq_getElem_cons bounded]
    simp [ByteArray.get!, inside]
  | case2 index done outside =>
    rw [List.drop_eq_nil_of_le (by simpa using Nat.le_of_not_lt outside), List.append_nil]

/-- A byte array is read out in the order of its bytes. -/
theorem toList_eq_data (bytes : ByteArray) : bytes.toList = bytes.data.toList := by
  rw [ByteArray.toList, toList_loop]
  rfl

/-- Bytes that are put into an array come out again. -/
@[simp] theorem toList_toByteArray (bytes : List UInt8) : bytes.toByteArray.toList = bytes := by
  rw [toList_eq_data, List.toList_data_toByteArray]

/-- And the other way round. -/
@[simp] theorem toByteArray_toList (bytes : ByteArray) : bytes.toList.toByteArray = bytes := by
  apply ByteArray.ext
  rw [← Array.toList_inj, List.toList_data_toByteArray, toList_eq_data]

/-- Byte arrays with the same bytes are equal. -/
theorem toList_injective {first second : ByteArray} (same : first.toList = second.toList) :
    first = second := by
  rw [← toByteArray_toList first, same, toByteArray_toList]

/-- The bytes of characters. -/
def encode (chars : List Char) : List UInt8 := chars.flatMap String.utf8EncodeChar

@[simp] theorem encode_nil : encode [] = [] := rfl

/-- Characters are encoded one by one. -/
@[simp] theorem encode_append (first second : List Char) :
    encode (first ++ second) = encode first ++ encode second :=
  List.flatMap_append

theorem encode_cons (c : Char) (rest : List Char) :
    encode (c :: rest) = String.utf8EncodeChar c ++ encode rest :=
  List.flatMap_cons

/-- The bytes of a text encode its characters. -/
theorem toList_toUTF8 (text : String) : text.toUTF8.toList = encode text.toList := by
  change text.toByteArray.toList = _
  rw [← String.utf8Encode_toList]
  exact toList_toByteArray _

/-- Bytes are a text if they are the bytes of that text. -/
theorem fromUTF8?_eq_some_iff {bytes : List UInt8} {text : String} :
    String.fromUTF8? bytes.toByteArray = some text ↔ bytes = encode text.toList := by
  rw [← toList_toUTF8, String.fromUTF8?]
  constructor
  · intro read
    split at read
    · obtain rfl := Option.some.inj read
      exact (toList_toByteArray bytes).symm
    · cases read
  · rintro rfl
    have valid : text.toUTF8.toList.toByteArray.IsValidUTF8 := by
      rw [toByteArray_toList]
      exact text.isValidUTF8
    rw [dif_pos valid]
    refine congrArg some (String.toByteArray_inj.mp ?_)
    exact toByteArray_toList text.toUTF8

/-- The bytes of a character of ASCII. -/
theorem utf8EncodeChar_of_lt {c : Char} (small : c.toNat < 128) :
    String.utf8EncodeChar c = [UInt8.ofNat c.toNat] := by
  have fits : c.val.toNat ≤ 127 := Nat.le_of_lt_succ small
  rw [String.utf8EncodeChar, if_pos fits]
  rfl

/-- The bytes of any other character. -/
theorem le_of_mem_utf8EncodeChar {c : Char} (large : 128 ≤ c.toNat) {b : UInt8}
    (member : b ∈ String.utf8EncodeChar c) : 128 ≤ b := by
  have beyond : ¬ c.val.toNat ≤ 127 := Nat.not_le_of_lt large
  obtain ⟨n, rfl, lower, upper⟩ : ∃ n, b = UInt8.ofNat n ∧ 128 ≤ n ∧ n < 256 := by
    simp only [String.utf8EncodeChar, beyond, ↓reduceIte] at member
    split at member
    · simp only [List.mem_cons, List.not_mem_nil, or_false] at member
      rcases member with rfl | rfl <;> exact ⟨_, rfl, by omega, by omega⟩
    · split at member <;> simp only [List.mem_cons, List.not_mem_nil, or_false] at member
      · rcases member with rfl | rfl | rfl <;> exact ⟨_, rfl, by omega, by omega⟩
      · rcases member with rfl | rfl | rfl | rfl <;> exact ⟨_, rfl, by omega, by omega⟩
  rwa [UInt8.le_iff_toNat_le, UInt8.toNat_ofNat_of_lt' upper]

/-- A byte of ASCII among the bytes of characters is a character by itself. -/
theorem mem_of_mem_encode {chars : List Char} {c : Char} (small : c.toNat < 128)
    (member : UInt8.ofNat c.toNat ∈ encode chars) : c ∈ chars := by
  obtain ⟨other, here, encoded⟩ := List.mem_flatMap.mp member
  by_cases ascii : other.toNat < 128
  · rw [utf8EncodeChar_of_lt ascii, List.mem_singleton] at encoded
    have same : c.toNat = other.toNat := by
      have values := congrArg UInt8.toNat encoded
      rwa [UInt8.toNat_ofNat_of_lt' (Nat.lt_trans small (by decide)),
        UInt8.toNat_ofNat_of_lt' (Nat.lt_trans ascii (by decide))] at values
    rwa [Char.toNat_inj.mp same]
  · have large := le_of_mem_utf8EncodeChar (Nat.le_of_not_lt ascii) encoded
    rw [UInt8.le_iff_toNat_le, UInt8.toNat_ofNat_of_lt' (Nat.lt_trans small (by decide))] at large
    exact absurd small (Nat.not_lt_of_le large)

end Switchboard.Text
