import Switchboard.Proofs.Json.Grammar
import Switchboard.Proofs.Json.Reading

/-!
# Reading and writing strings

A string that is read is spelled by the bytes that are consumed (`isText_of_readString`), one that
is passed over is at least well formed (`loose_of_skipString`), and what is written for a string
spells it (`quoted_escaped`).
-/

namespace Switchboard.Json

open Text (encode)

variable {bytes rest : Bytes}

/-! ## Reading -/

/-- Four digits that are read are hexadecimal. -/
theorem hex4_of_readHex4 {n : Nat} (reads : readHex4 bytes = .ok (n, rest)) :
    Hex4 bytes n rest := by
  unfold readHex4 at reads
  split at reads
  next a b c d after =>
    split at reads
    next first second third fourth =>
      cases reads
      exact .digits first second third fourth
    next => cases reads
  next => cases reads

/-- A byte that is expected is there. -/
theorem eq_cons_of_expectEscapeByte {b : UInt8} (passes : expectEscapeByte b bytes = .ok rest) :
    bytes = b :: rest := by
  unfold expectEscapeByte at passes
  split at passes
  · cases passes
  next other after =>
    split at passes
    next same =>
      cases passes
      rw [eq_of_beq same]
    next => cases passes

/-- A code point that is read is escaped by its digits. -/
theorem escape_of_readCodePoint {c : Char} (reads : readCodePoint bytes = .ok (c, rest)) :
    Escape (0x75 :: bytes) c rest := by
  obtain ⟨⟨high, afterHigh⟩, readsHigh, reads⟩ := bind_eq_ok.mp reads
  have first := hex4_of_readHex4 readsHigh
  dsimp only at reads
  split at reads
  · cases reads
  next notLow =>
    split at reads
    next single =>
      cases reads
      refine .point first ?_
      simp at single notLow
      omega
    next surrogate =>
      obtain ⟨afterSlash, slash, reads⟩ := bind_eq_ok.mp reads
      obtain ⟨afterLetter, letter, reads⟩ := bind_eq_ok.mp reads
      obtain ⟨⟨low, afterLow⟩, readsLow, reads⟩ := bind_eq_ok.mp reads
      have second := hex4_of_readHex4 readsLow
      rw [eq_cons_of_expectEscapeByte slash, eq_cons_of_expectEscapeByte letter] at first
      dsimp only at reads
      split at reads
      · cases reads
      next isLow =>
        obtain ⟨character, rfl⟩ := Prod.mk.inj (Except.ok.inj reads)
        rw [← character]
        refine .pair first ?_ second ?_
        · simp at surrogate
          omega
        · simp at isLow
          omega

/-- An escape that is read stands for its character. -/
theorem escape_of_readEscape {c : Char} (reads : readEscape bytes = .ok (c, rest)) :
    Escape bytes c rest := by
  unfold readEscape at reads
  split at reads
  · cases reads
  next b after =>
    split at reads
    next means =>
      cases reads
      exact .letter means
    next =>
      split at reads
      next isPoint =>
        rw [eq_of_beq isPoint]
        exact escape_of_readCodePoint reads
      next => cases reads

/-- The bytes of a string that is read are quoted where it stands. -/
theorem quoted_of_readStringOnto {bound : Nat} {done text : Bytes}
    (reads : readStringOnto bound done bytes = .ok (text, rest)) :
    ∃ content, Quoted bytes content rest ∧ text = done.reverse ++ content := by
  fun_induction readStringOnto bound done bytes with
  | case1 => cases reads
  | case2 => cases reads
  | case3 bound done b after quote =>
    cases reads
    rw [eq_of_beq quote]
    exact ⟨[], .close, (List.append_nil _).symm⟩
  | case4 bound done b after notQuote escape ih =>
    obtain ⟨⟨c, afterEscape⟩, readsEscape, reads⟩ := bind_eq_ok.mp reads
    obtain ⟨content, quoted, rfl⟩ := ih _ _ reads
    rw [eq_of_beq escape]
    refine ⟨_, .escape (escape_of_readEscape readsEscape) quoted, ?_⟩
    simp
  | case5 => cases reads
  | case6 bound done b after notQuote notEscape printable ih =>
    obtain ⟨content, quoted, rfl⟩ := ih reads
    have isPlain : IsPlain b :=
      ⟨by simpa using notQuote, by simpa using notEscape, by simpa using printable⟩
    exact ⟨b :: content, .plain isPlain quoted, by simp⟩

/-- A string that is read is spelled where it stands. -/
theorem isText_of_readString {bound : Nat} {text : String}
    (reads : readString bound bytes = .ok (text, rest)) : IsText bytes text rest := by
  obtain ⟨⟨content, after⟩, readsBytes, reads⟩ := bind_eq_ok.mp reads
  obtain ⟨content, quoted, rfl⟩ := quoted_of_readStringOnto readsBytes
  dsimp only at reads
  split at reads
  next decodes =>
    cases reads
    rw [IsText, ← Text.fromUTF8?_eq_some_iff.mp decodes]
    exact quoted
  next => cases reads

/-- A string that is passed over is well formed. -/
theorem loose_of_skipString {bound : Nat} (passes : skipString bound bytes = .ok rest) :
    Loose bytes () rest := by
  fun_induction skipString bound bytes with
  | case1 => cases passes
  | case2 => cases passes
  | case3 bound b after quote =>
    cases passes
    rw [eq_of_beq quote]
    exact .close
  | case4 => cases passes
  | case5 bound b notQuote escape e after known ih =>
    rw [eq_of_beq escape]
    exact .letter known (ih passes)
  | case6 bound b notQuote escape e after unknown isPoint ih =>
    obtain ⟨⟨n, afterDigits⟩, readsDigits, passes⟩ := bind_eq_ok.mp passes
    rw [eq_of_beq escape, eq_of_beq isPoint]
    exact .point (hex4_of_readHex4 readsDigits) (ih _ passes)
  | case7 => cases passes
  | case8 => cases passes
  | case9 bound b after notQuote notEscape printable ih =>
    exact .plain ⟨by simpa using notQuote, by simpa using notEscape, by simpa using printable⟩
      (ih passes)

/-- Whatever is a string in earnest may be passed over. -/
theorem Quoted.loose {content : Bytes} (quoted : Quoted bytes content rest) :
    Loose bytes () rest := by
  induction quoted with
  | close => exact .close
  | plain isPlain _ ih => exact .plain isPlain ih
  | escape means _ ih =>
    cases means with
    | letter means => exact .letter (by rw [means]; rfl) ih
    | point hex single => exact .point hex ih
    | pair first isHigh second isLow => exact .point first (.point second ih)

/-! ## Writing -/

/-- The bytes of a character of ASCII. -/
theorem encode_cons_of_lt {c : Char} (small : c.toNat < 128) (chars : List Char) :
    encode (c :: chars) = UInt8.ofNat c.toNat :: encode chars := by
  rw [Text.encode_cons, Text.utf8EncodeChar_of_lt small]
  rfl

/-- A hexadecimal digit that is written is read as its value. -/
theorem hexValue?_hexDigit (n : Fin 16) :
    (hexDigit n).toNat < 128 ∧ hexValue? (.ofNat (hexDigit n).toNat) = some n.val := by
  revert n
  decide

/-- The bytes of a character that is written as it is. -/
theorem quoted_of_plain {content : Bytes} {plain : Bytes} (arePlain : ∀ b ∈ plain, IsPlain b)
    (tail : Quoted bytes content rest) : Quoted (plain ++ bytes) (plain ++ content) rest := by
  induction plain with
  | nil => exact tail
  | cons b others ih =>
    exact .plain (arePlain b List.mem_cons_self)
      (ih fun other member => arePlain other (List.mem_cons_of_mem _ member))

/-- A control character is escaped by its code. -/
theorem escape_control {c : Char} (control : c.toNat < 0x20) :
    Escape (0x75 :: 0x30 :: 0x30 :: UInt8.ofNat (hexDigit (c.toNat / 16)).toNat ::
      UInt8.ofNat (hexDigit (c.toNat % 16)).toNat :: bytes) c bytes := by
  have high := (hexValue?_hexDigit ⟨c.toNat / 16, by omega⟩).2
  have low := (hexValue?_hexDigit ⟨c.toNat % 16, by omega⟩).2
  have zero : hexValue? 0x30 = some 0 := by decide
  have point := Escape.point (.digits zero zero high low : Hex4 _ _ bytes) (.inl (by omega))
  have value : ((0 * 16 + 0) * 16 + c.toNat / 16) * 16 + c.toNat % 16 = c.toNat := by omega
  rwa [value, Char.ofNat_toNat] at point

/-- The bytes of a printable character, unless it is a quote or a backslash. -/
theorem isPlain_of_printable {c : Char} (notQuote : c ≠ '"') (notSlash : c ≠ '\\')
    (printable : 0x20 ≤ c.toNat) {b : UInt8} (member : b ∈ String.utf8EncodeChar c) :
    IsPlain b := by
  by_cases small : c.toNat < 128
  · rw [Text.utf8EncodeChar_of_lt small, List.mem_singleton] at member
    have value : b.toNat = c.toNat := by
      rw [member, UInt8.toNat_ofNat_of_lt' (Nat.lt_trans small (by decide))]
    refine ⟨?_, ?_, by rwa [UInt8.le_iff_toNat_le, value]⟩
    · rintro rfl
      exact notQuote (Char.toNat_inj.mp value.symm)
    · rintro rfl
      exact notSlash (Char.toNat_inj.mp value.symm)
  · have large := UInt8.le_iff_toNat_le.mp
      (Text.le_of_mem_utf8EncodeChar (Nat.le_of_not_lt small) member)
    refine ⟨?_, ?_, UInt8.le_iff_toNat_le.mpr (Nat.le_trans (by decide) large)⟩
    · rintro rfl
      exact absurd large (by decide)
    · rintro rfl
      exact absurd large (by decide)

/-- What is written for a character stands for it. -/
theorem quoted_escapeChar (c : Char) {content : Bytes} (tail : Quoted bytes content rest) :
    Quoted (encode (escapeChar c) ++ bytes) (String.utf8EncodeChar c ++ content) rest := by
  unfold escapeChar
  split
  case h_8 notQuote notSlash _ _ _ _ _ =>
    split
    next control =>
      have high := (hexValue?_hexDigit ⟨c.toNat / 16, by omega⟩).1
      have low := (hexValue?_hexDigit ⟨c.toNat % 16, by omega⟩).1
      rw [encode_cons_of_lt (by decide), encode_cons_of_lt (by decide),
        encode_cons_of_lt (by decide), encode_cons_of_lt (by decide), encode_cons_of_lt high,
        encode_cons_of_lt low]
      exact .escape (escape_control control) tail
    next printable =>
      rw [Text.encode_cons, Text.encode_nil, List.append_nil]
      exact quoted_of_plain
        (fun b => isPlain_of_printable notQuote notSlash (Nat.le_of_not_lt printable)) tail
  all_goals exact .escape (.letter (by decide)) tail

/-- What is written for characters stands for them, up to the quote behind them. -/
theorem quoted_escaped (chars : List Char) :
    Quoted (encode (chars.flatMap escapeChar) ++ 0x22 :: rest) (encode chars) rest := by
  induction chars with
  | nil => exact .close
  | cons c others ih =>
    rw [List.flatMap_cons, Text.encode_append, List.append_assoc, Text.encode_cons]
    exact quoted_escapeChar c ih

/-- Characters are pushed in their order. -/
theorem foldl_push (out : String) (chars : List Char) :
    (chars.foldl String.push out).toList = out.toList ++ chars := by
  induction chars generalizing out with
  | nil => simp
  | cons c others ih => simp [ih]

/-- The characters of a string with its quotes. -/
def quotedChars (text : String) : List Char := '"' :: (text.toList.flatMap escapeChar ++ ['"'])

/-- A string is written between quotes, with escapes. -/
theorem toList_writeString (out text : String) :
    (writeString out text).toList = out.toList ++ quotedChars text := by
  have folded (chars : List Char) (out : String) :
      (chars.foldl (fun out c => (escapeChar c).foldl String.push out) out).toList =
        out.toList ++ chars.flatMap escapeChar := by
    induction chars generalizing out with
    | nil => simp
    | cons c others ih => rw [List.foldl_cons, ih, foldl_push, List.flatMap_cons, List.append_assoc]
  simp [writeString, folded, quotedChars]

/-- Its bytes begin and end with a quote. -/
theorem encode_quotedChars (text : String) (rest : Bytes) :
    encode (quotedChars text) ++ rest =
      0x22 :: (encode (text.toList.flatMap escapeChar) ++ 0x22 :: rest) := by
  rw [quotedChars, encode_cons_of_lt (by decide), Text.encode_append, encode_cons_of_lt (by decide)]
  simp

end Switchboard.Json
