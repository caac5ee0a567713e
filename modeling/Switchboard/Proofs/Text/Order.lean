import Switchboard.Proofs.Text.Utf8

/-!
# The order of texts

Texts are ordered by their characters, and their bytes are ordered alike (`encode_lt_encode`): a
lower character has the lower bytes, whatever follows it (`utf8EncodeChar_append_lt`).
-/

namespace Switchboard.Text

/-- Bytes that are lower, or equal and followed by lower ones. -/
theorem cons_ofNat_lt {n m : Nat} {first second : List UInt8} (fits : m < 256) (lower : n ≤ m)
    (rest : n = m → first < second) : UInt8.ofNat n :: first < UInt8.ofNat m :: second := by
  rw [List.cons_lt_cons_iff]
  rcases Nat.lt_or_eq_of_le lower with less | same
  · left
    rwa [UInt8.lt_iff_toNat_lt, UInt8.toNat_ofNat_of_lt' (Nat.lt_trans less fits),
      UInt8.toNat_ofNat_of_lt' fits]
  · exact .inr ⟨by rw [same], rest same⟩

/-- A lower character has the lower bytes: fewer of them, which shows in the first one, or as many,
and then the six bits that each of them holds decide. -/
theorem utf8EncodeChar_append_lt {c d : Char} (less : c < d) (first second : List UInt8) :
    String.utf8EncodeChar c ++ first < String.utf8EncodeChar d ++ second := by
  have values : c.val.toNat < d.val.toNat := less
  have bound : d.val.toNat < 0x110000 := by
    rcases d.valid with low | high <;> omega
  simp only [String.utf8EncodeChar]
  generalize c.val.toNat = n at values
  generalize d.val.toNat = m at values bound
  split
  · split
    · exact cons_ofNat_lt (by omega) (by omega) (by omega)
    · split
      · exact cons_ofNat_lt (by omega) (by omega) (by omega)
      · split <;> exact cons_ofNat_lt (by omega) (by omega) (by omega)
  split
  · rw [if_neg (by omega)]
    split
    · exact cons_ofNat_lt (by omega) (by omega) fun _ =>
        cons_ofNat_lt (by omega) (by omega) (by omega)
    · split <;> exact cons_ofNat_lt (by omega) (by omega) (by omega)
  split
  · rw [if_neg (by omega), if_neg (by omega)]
    split
    · exact cons_ofNat_lt (by omega) (by omega) fun _ =>
        cons_ofNat_lt (by omega) (by omega) fun _ =>
          cons_ofNat_lt (by omega) (by omega) (by omega)
    · exact cons_ofNat_lt (by omega) (by omega) (by omega)
  · rw [if_neg (by omega), if_neg (by omega), if_neg (by omega)]
    exact cons_ofNat_lt (by omega) (by omega) fun _ =>
      cons_ofNat_lt (by omega) (by omega) fun _ =>
        cons_ofNat_lt (by omega) (by omega) fun _ =>
          cons_ofNat_lt (by omega) (by omega) (by omega)

/-- A character has at least one byte. -/
theorem encode_cons_ne_nil (c : Char) (rest : List Char) : encode (c :: rest) ≠ [] := by
  rw [encode_cons, String.utf8EncodeChar]
  split
  · exact List.cons_ne_nil _ _
  · split
    · exact List.cons_ne_nil _ _
    · split <;> exact List.cons_ne_nil _ _

/-- Texts are ordered like their bytes. -/
theorem encode_lt_encode {first second : List Char} (less : first < second) :
    encode first < encode second := by
  induction less with
  | @nil c others =>
    obtain ⟨b, bytes, text⟩ := List.exists_cons_of_ne_nil (encode_cons_ne_nil c others)
    rw [text]
    exact .nil
  | @cons c first second less ih =>
    rw [encode_cons, encode_cons]
    exact List.append_left_lt ih
  | rel less =>
    rw [encode_cons, encode_cons]
    exact utf8EncodeChar_append_lt less _ _

end Switchboard.Text
