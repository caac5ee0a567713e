import Mathlib.Algebra.Order.Field.Basic
import Mathlib.Algebra.Order.Ring.Rat
import Mathlib.Tactic.NormNum
import Switchboard.Proofs.Json.Grammar
import Switchboard.Proofs.Json.Reading

/-!
# Reading numbers

A number that is read is the literal that is consumed, and what is read does not depend on what
follows it (`literal_of_readNumber`). Integers that fit 64 bits are read as they are
(`number?_of_isWhole`); other numbers are what the reader makes of the literal alone.
-/

namespace Switchboard.Json

open Decimal

variable {positive : Bool} {digits : Nat} {exponent : Int} {bytes rest : Bytes} {number : Number}

/-! ## Digits -/

/-- The byte of a digit is that digit. -/
theorem digit?_digitByte (digit : Digit) : digit? (digitByte digit) = some digit.val := by
  revert digit
  decide

@[simp] theorem isDigitByte_digitByte (digit : Digit) : isDigitByte (digitByte digit) = true := by
  rw [isDigitByte, digit?_digitByte]
  rfl

/-- Digits are spelled one by one. -/
@[simp] theorem spelled_append (first second : List Digit) :
    spelled (first ++ second) = spelled first ++ spelled second :=
  List.map_append

/-- Different digits have different bytes. -/
theorem digitByte_injective {first second : Digit} (same : digitByte first = digitByte second) :
    first = second := by
  have values := congrArg digit? same
  rw [digit?_digitByte, digit?_digitByte] at values
  exact Fin.ext (Option.some.inj values)

/-- A byte that is no digit is the byte of no digit. -/
theorem digitByte_ne (digit : Digit) {b : UInt8} (noDigit : isDigitByte b = false) :
    digitByte digit ≠ b := by
  rintro rfl
  rw [isDigitByte_digitByte] at noDigit
  cases noDigit

/-- A byte that is a digit is the byte of that digit. -/
theorem exists_of_digit? {b : UInt8} {value : Nat} (isDigit : digit? b = some value) :
    ∃ digit : Digit, b = digitByte digit ∧ value = digit.val := by
  rw [digit?] at isDigit
  split at isDigit
  next inRange =>
    rw [Bool.and_eq_true, decide_eq_true_eq, decide_eq_true_eq, UInt8.le_iff_toNat_le,
      UInt8.le_iff_toNat_le] at inRange
    obtain ⟨lower, upper⟩ : 0x30 ≤ b.toNat ∧ b.toNat ≤ 0x39 := inRange
    obtain rfl := Option.some.inj isDigit
    refine ⟨⟨b.toNat - 0x30, by omega⟩, ?_, rfl⟩
    rw [digitByte, Nat.add_sub_cancel' lower, UInt8.ofNat_toNat]
  next => cases isDigit

/-- The same without the value. -/
theorem exists_of_isDigitByte {b : UInt8} (isDigit : isDigitByte b = true) :
    ∃ digit : Digit, b = digitByte digit := by
  obtain ⟨value, found⟩ := Option.isSome_iff_exists.mp isDigit
  obtain ⟨digit, same, -⟩ := exists_of_digit? found
  exact ⟨digit, same⟩

/-- The digits at the front of bytes. -/
theorem exists_spelled_dropWhile (bytes : Bytes) :
    ∃ front, bytes = spelled front ++ bytes.dropWhile isDigitByte ∧
      startsWithDigit (bytes.dropWhile isDigitByte) = false := by
  induction bytes with
  | nil => exact ⟨[], rfl, rfl⟩
  | cons b others ih =>
    cases isDigit : isDigitByte b with
    | true =>
      obtain ⟨digit, rfl⟩ := exists_of_isDigitByte isDigit
      obtain ⟨front, split, stops⟩ := ih
      rw [List.dropWhile_cons_of_pos isDigit]
      exact ⟨digit :: front, congrArg _ split, stops⟩
    | false =>
      rw [List.dropWhile_cons_of_neg (by simp [isDigit])]
      exact ⟨[], rfl, isDigit⟩

/-- The digits at the front of bytes that begin with one. -/
theorem exists_spelled_of_startsWithDigit (goesOn : startsWithDigit bytes = true) :
    ∃ front, front ≠ [] ∧ bytes = spelled front ++ bytes.dropWhile isDigitByte ∧
      startsWithDigit (bytes.dropWhile isDigitByte) = false := by
  obtain ⟨front, split, stops⟩ := exists_spelled_dropWhile bytes
  refine ⟨front, ?_, split, stops⟩
  rintro rfl
  rw [split] at goesOn
  exact absurd goesOn (by simpa [spelled] using stops)

/-- What is read of digits: those that keep the number below the limit, whatever follows them. -/
theorem readDigits_spelled (limit value count : Nat) (bytes : Bytes) :
    ∃ front, bytes = spelled front ++ (readDigits limit value count bytes).2.2 ∧
      (readDigits limit value count bytes).1 = valueFrom value front ∧
      (readDigits limit value count bytes).2.1 = count + front.length ∧
      ∀ kept after, (readDigits limit value count bytes).2.2 = kept ++ after →
        readDigits limit value count (spelled front ++ kept) =
          ((readDigits limit value count bytes).1, (readDigits limit value count bytes).2.1,
            kept) := by
  fun_induction readDigits limit value count bytes with
  | case1 value count =>
    refine ⟨[], rfl, rfl, rfl, fun kept after split => ?_⟩
    obtain rfl := (List.append_eq_nil_iff.mp split.symm).1
    rfl
  | case2 value count b others notDigit =>
    refine ⟨[], rfl, rfl, rfl, fun kept after split => ?_⟩
    cases kept with
    | nil => rfl
    | cons first kept =>
      obtain ⟨rfl, -⟩ := List.cons.inj split
      simp [spelled, readDigits, notDigit]
  | case3 value count b others found isDigit fits ih =>
    obtain ⟨digit, rfl, rfl⟩ := exists_of_digit? isDigit
    obtain ⟨front, bytesEq, valueEq, countEq, alone⟩ := ih
    refine ⟨digit :: front, congrArg _ bytesEq, valueEq, ?_, fun kept after split => ?_⟩
    · rw [countEq, List.length_cons]
      omega
    · rw [← alone kept after split]
      simp [spelled, readDigits, isDigit, fits]
  | case4 value count b others found isDigit full =>
    refine ⟨[], rfl, rfl, rfl, fun kept after split => ?_⟩
    cases kept with
    | nil => rfl
    | cons first kept =>
      obtain ⟨rfl, -⟩ := List.cons.inj split
      simp [spelled, readDigits, isDigit, full]

/-- More digits make no less. -/
theorem le_valueFrom (value : Nat) (front : List Digit) : value ≤ valueFrom value front := by
  induction front generalizing value with
  | nil => exact Nat.le_refl _
  | cons digit others ih => exact Nat.le_trans (by omega) (ih (value * 10 + digit.val))

/-- Digits that spell a number below the limit are all read. -/
theorem readDigits_of_lt {limit value count : Nat} {front : List Digit}
    (fits : valueFrom value front < limit) (stops : startsWithDigit rest = false) :
    readDigits limit value count (spelled front ++ rest) =
      (valueFrom value front, count + front.length, rest) := by
  induction front generalizing value count with
  | nil =>
    cases rest with
    | nil => rfl
    | cons b others =>
      have notDigit : digit? b = none := by simpa [startsWithDigit, isDigitByte] using stops
      simp [spelled, readDigits, notDigit, valueFrom]
  | cons digit others ih =>
    have step : value * 10 + digit.val < limit := Nat.lt_of_le_of_lt (le_valueFrom _ others) fits
    have later := @ih (value * 10 + digit.val) (count + 1) fits
    rw [List.length_cons, Nat.add_comm others.length, ← Nat.add_assoc]
    simpa [spelled, readDigits, digit?_digitByte, step, valueFrom] using later

/-! ## Fractions and exponents -/

/-- What follows a number does not matter to its value, and is left. -/
theorem finishFloat_eq_ok
    (reads : finishFloat positive digits exponent bytes = .ok (number, rest)) :
    rest = bytes ∧
      ∀ other, finishFloat positive digits exponent other = .ok (number, other) := by
  simp only [finishFloat] at reads ⊢
  split at reads
  next value found =>
    cases reads
    exact ⟨rfl, fun other => rfl⟩
  next => cases reads

/-- An exponent after its mark is its sign and its digits. -/
theorem readExponent_signed (sign : Sign) (digit : Digit) (after : Bytes) :
    readExponent positive digits exponent (sign.text ++ digitByte digit :: after) =
      if startsWithDigit (readDigits exponentLimit 0 0 (digitByte digit :: after)).2.2 then
        if digits != 0 && sign.upward then
          failAt .numberOutOfRange
            (readDigits exponentLimit 0 0 (digitByte digit :: after)).2.2.tail
        else .ok (.float (.zero !positive),
          (readDigits exponentLimit 0 0 (digitByte digit :: after)).2.2.dropWhile isDigitByte)
      else
        finishFloat positive digits
          (addExponent exponent sign.upward
            (readDigits exponentLimit 0 0 (digitByte digit :: after)).1)
          (readDigits exponentLimit 0 0 (digitByte digit :: after)).2.2 := by
  have isDigit := isDigitByte_digitByte digit
  cases sign with
  | unwritten =>
    rw [Sign.text, List.nil_append, readExponent]
    · simp [isDigit, Sign.upward]
    · rintro others same
      exact digitByte_ne digit (by decide) (List.cons.inj same).1
    · rintro others same
      exact digitByte_ne digit (by decide) (List.cons.inj same).1
  | plus => simp [readExponent, Sign.text, isDigit, Sign.upward]
  | minus => simp [readExponent, Sign.text, isDigit, Sign.upward]

/-- An exponent that can be read begins with a sign and a digit. -/
theorem exists_signed (reads : readExponent positive digits exponent bytes = .ok (number, rest)) :
    ∃ (sign : Sign) (digit : Digit) (after : Bytes),
      bytes = sign.text ++ digitByte digit :: after := by
  unfold readExponent at reads
  dsimp only at reads
  split at reads
  · cases reads
  next b after unsigned =>
    split at reads
    · cases reads
    next isDigit =>
      obtain ⟨digit, rfl⟩ := exists_of_isDigitByte (by simpa using isDigit)
      split at unsigned
      · exact ⟨.plus, digit, after, congrArg _ unsigned⟩
      · exact ⟨.minus, digit, after, congrArg _ unsigned⟩
      · exact ⟨.unwritten, digit, after, unsigned⟩

/-- Digits are passed together with those behind them. -/
theorem dropWhile_spelled (front : List Digit) (rest : Bytes) :
    (spelled front ++ rest).dropWhile isDigitByte = rest.dropWhile isDigitByte :=
  List.dropWhile_append_of_pos fun b member => by
    obtain ⟨digit, -, rfl⟩ := List.mem_map.mp member
    exact isDigitByte_digitByte digit

/-- Where digits are spelled there is a digit. -/
theorem startsWithDigit_spelled {front : List Digit} (nonempty : front ≠ []) (rest : Bytes) :
    startsWithDigit (spelled front ++ rest) = true := by
  obtain ⟨digit, others, rfl⟩ := List.exists_cons_of_ne_nil nonempty
  exact isDigitByte_digitByte digit

/-- Digits in front of something else, where there is a digit. -/
theorem exists_cons_of_spelled {digit : Digit} {after : Bytes} {front : List Digit}
    (split : digitByte digit :: after = spelled front ++ rest)
    (stops : startsWithDigit rest = false) :
    ∃ others, front = digit :: others := by
  cases front with
  | nil =>
    obtain rfl : digitByte digit :: after = rest := split
    exact absurd stops (by simp [startsWithDigit])
  | cons first others =>
    obtain rfl := digitByte_injective (List.cons.inj split).1
    exact ⟨others, rfl⟩

/-- An exponent is read whatever follows its digits. -/
theorem scale_of_readExponent
    (reads : readExponent positive digits exponent bytes = .ok (number, rest)) :
    ∃ (sign : Sign) (front : List Digit), front ≠ [] ∧
      bytes = sign.text ++ (spelled front ++ rest) ∧
      readExponent positive digits exponent (sign.text ++ spelled front) = .ok (number, []) := by
  obtain ⟨sign, digit, after, rfl⟩ := exists_signed reads
  rw [readExponent_signed] at reads
  obtain ⟨front, split, -, -, alone⟩ :=
    readDigits_spelled exponentLimit 0 0 (digitByte digit :: after)
  generalize readDigits exponentLimit 0 0 (digitByte digit :: after) = result
    at reads split alone
  split at reads
  next goesOn =>
    -- The exponent is too long: what is left of it is passed over.
    split at reads
    · cases reads
    next small =>
      obtain ⟨more, moreSome, splitMore, stops⟩ := exists_spelled_of_startsWithDigit goesOn
      obtain ⟨rfl, rfl⟩ := Prod.mk.inj (Except.ok.inj reads)
      have joined : digitByte digit :: after =
          spelled (front ++ more) ++ result.2.2.dropWhile isDigitByte := by
        rw [split, spelled_append, List.append_assoc, ← splitMore]
      obtain ⟨others, full⟩ := exists_cons_of_spelled joined stops
      refine ⟨sign, front ++ more, by simp [moreSome], congrArg _ joined, ?_⟩
      have read := alone (spelled more) _ splitMore
      have text : spelled (front ++ more) = digitByte digit :: spelled others := by rw [full]; rfl
      rw [← spelled_append, text] at read
      have started : startsWithDigit (spelled more) = true := by
        simpa using startsWithDigit_spelled moreSome []
      have left : (spelled more).dropWhile isDigitByte = [] := by
        simpa using dropWhile_spelled more []
      rw [text, readExponent_signed, read]
      simp [started, small, left]
  next stops =>
    obtain ⟨rfl, alike⟩ := finishFloat_eq_ok reads
    obtain ⟨others, rfl⟩ := exists_cons_of_spelled split (by simpa using stops)
    refine ⟨sign, digit :: others, by simp, congrArg _ split, ?_⟩
    have read := alone [] _ rfl
    rw [List.append_nil] at read
    have text : spelled (digit :: others) = digitByte digit :: spelled others := rfl
    rw [text] at read ⊢
    rw [readExponent_signed, read]
    exact alike []

/-- The mark of an exponent is one of two letters. -/
theorem exists_mark (marked : startsWithExponent bytes = true) :
    ∃ (capital : Bool) (behind : Bytes),
      bytes = (if capital then 0x45 else 0x65) :: behind := by
  cases bytes with
  | nil => cases marked
  | cons mark behind =>
    rcases (by simpa [startsWithExponent] using marked : mark = 0x65 ∨ mark = 0x45) with rfl | rfl
    · exact ⟨false, behind, rfl⟩
    · exact ⟨true, behind, rfl⟩

/-- An exponent with its mark. -/
theorem scale_of_mark (marked : startsWithExponent bytes = true)
    (reads : readExponent positive digits exponent bytes.tail = .ok (number, rest)) :
    ∃ scale : Scale, bytes = scale.text ++ rest ∧
      readExponent positive digits exponent scale.text.tail = .ok (number, []) := by
  obtain ⟨capital, behind, rfl⟩ := exists_mark marked
  obtain ⟨sign, front, someDigit, split, alone⟩ := scale_of_readExponent reads
  have behindEq : behind = sign.text ++ (spelled front ++ rest) := split
  refine ⟨⟨capital, sign, front, someDigit⟩, ?_, alone⟩
  simp [Scale.text, behindEq]

/-- An exponent begins with its mark. -/
theorem startsWithExponent_text (scale : Scale) : startsWithExponent scale.text = true := by
  obtain ⟨capital, sign, digits, ne_nil⟩ := scale
  cases capital <;> rfl

/-- What is read after all digits of a number: an exponent, if there is one. -/
theorem scaled_of_readScaled
    (reads : readScaled positive digits exponent bytes = .ok (number, rest)) :
    ∃ scale, bytes = scaled scale ++ rest ∧
      readScaled positive digits exponent (scaled scale) = .ok (number, []) := by
  unfold readScaled at reads
  split at reads
  next marked =>
    obtain ⟨scale, split, alone⟩ := scale_of_mark marked reads
    exact ⟨some scale, split, (if_pos (startsWithExponent_text scale)).trans alone⟩
  next unmarked =>
    obtain ⟨rfl, alike⟩ := finishFloat_eq_ok reads
    exact ⟨none, rfl, alike []⟩

/-- An exponent does not begin with a digit, nor does nothing. -/
theorem startsWithDigit_scaled (scale : Option Scale) : startsWithDigit (scaled scale) = false := by
  cases scale with
  | none => rfl
  | some scale =>
    obtain ⟨capital, sign, digits, ne_nil⟩ := scale
    cases capital <;> rfl

/-- Where there is no digit none is passed. -/
theorem dropWhile_of_stops (stops : startsWithDigit bytes = false) :
    bytes.dropWhile isDigitByte = bytes := by
  cases bytes with
  | nil => rfl
  | cons b others =>
    have noDigit : isDigitByte b = false := stops
    rw [List.dropWhile_cons_of_neg (by simp [noDigit])]

/-- A fraction that is read is spelled by decimal places and perhaps an exponent, which alone are
read as the same number. -/
theorem fraction_of_readFraction
    (reads : readFraction positive digits exponent bytes = .ok (number, rest)) :
    ∃ places scale, places ≠ [] ∧ bytes = spelled places ++ (scaled scale ++ rest) ∧
      readFraction positive digits exponent (spelled places ++ scaled scale) =
        .ok (number, []) := by
  obtain ⟨front, split, -, count, alone⟩ := readDigits_spelled UInt64.size digits 0 bytes
  simp only [readFraction] at reads ⊢
  generalize readDigits UInt64.size digits 0 bytes = result at reads split count alone
  split at reads
  next goesOn =>
    -- The digits are too many for 64 bits: the others do not count.
    obtain ⟨more, moreSome, splitMore, stops⟩ := exists_spelled_of_startsWithDigit goesOn
    obtain ⟨scale, splitScale, scaledAlone⟩ := scaled_of_readScaled reads
    rw [splitScale, ← List.append_assoc] at splitMore
    refine ⟨front ++ more, scale, by simp [moreSome], ?_, ?_⟩
    · rw [split, splitMore, spelled_append, List.append_assoc, List.append_assoc]
    · have left : (spelled more ++ scaled scale).dropWhile isDigitByte = scaled scale := by
        rw [dropWhile_spelled, dropWhile_of_stops (startsWithDigit_scaled scale)]
      rw [spelled_append, List.append_assoc, alone _ _ splitMore]
      simp only [startsWithDigit_spelled moreSome, ↓reduceIte, left]
      exact scaledAlone
  next stops =>
    split at reads
    · split at reads <;> cases reads
    next someDigit =>
      obtain ⟨scale, splitScale, scaledAlone⟩ := scaled_of_readScaled reads
      refine ⟨front, scale, ?_, ?_, ?_⟩
      · rintro rfl
        simp [count] at someDigit
      · rw [split, splitScale]
      · rw [alone _ _ splitScale]
        simp only [startsWithDigit_scaled, someDigit]
        exact scaledAlone

/-! ## Whole numbers -/

/-- What follows a whole number does not matter to its value, and is left. -/
theorem wholeNumber_eq_ok (reads : wholeNumber positive digits bytes = .ok (number, rest)) :
    rest = bytes ∧ ∀ other, wholeNumber positive digits other = .ok (number, other) := by
  simp only [wholeNumber] at reads ⊢
  split at reads
  next isPositive =>
    cases reads
    exact ⟨rfl, fun other => if_pos isPositive⟩
  next isNegative =>
    simp only [isNegative]
    split at reads
    next fits =>
      cases reads
      exact ⟨rfl, fun other => by simp [fits]⟩
    next large =>
      obtain ⟨same, alike⟩ := finishFloat_eq_ok reads
      exact ⟨same, fun other => by simp [large, alike other]⟩

/-- What is read after the integer digits of a number: decimal places and an exponent. -/
theorem tail_of_readAfterInteger
    (reads : readAfterInteger positive digits bytes = .ok (number, rest)) :
    ∃ places scale, bytes = pointed places ++ (scaled scale ++ rest) ∧
      readAfterInteger positive digits (pointed places ++ scaled scale) = .ok (number, []) := by
  unfold readAfterInteger at reads
  split at reads
  next behind =>
    obtain ⟨places, scale, somePlace, split, alone⟩ := fraction_of_readFraction reads
    obtain ⟨first, others, rfl⟩ := List.exists_cons_of_ne_nil somePlace
    refine ⟨first :: others, scale, congrArg _ split, ?_⟩
    exact alone
  next noPoint =>
    split at reads
    next marked =>
      obtain ⟨scale, split, alone⟩ := scale_of_mark marked reads
      refine ⟨[], some scale, split, ?_⟩
      have unpointed (behind : Bytes) : scale.text ≠ 0x2e :: behind := by
        rw [Scale.text]
        cases scale.capital <;> exact fun same => absurd (List.cons.inj same).1 (by decide)
      have text : pointed [] ++ scaled (some scale) = scale.text := rfl
      rw [text, readAfterInteger.eq_2 _ _ _ unpointed, if_pos (startsWithExponent_text scale)]
      exact alone
    next unmarked =>
      obtain ⟨rfl, alike⟩ := wholeNumber_eq_ok reads
      exact ⟨[], none, rfl, alike []⟩

/-- Behind a point or without one, digits do not go on. -/
theorem startsWithDigit_pointed (places : List Digit) (stops : startsWithDigit bytes = false) :
    startsWithDigit (pointed places ++ bytes) = false := by
  cases places with
  | nil => exact stops
  | cons digit others => rfl

/-- What may follow the whole digits does not begin with a digit. -/
theorem startsWithDigit_tail (places : List Digit) (scale : Option Scale) :
    startsWithDigit (pointed places ++ scaled scale) = false :=
  startsWithDigit_pointed places (startsWithDigit_scaled scale)

/-- As many digits are counted as are spelled. -/
theorem takeWhile_spelled (front : List Digit) (stops : startsWithDigit rest = false) :
    (spelled front ++ rest).takeWhile isDigitByte = spelled front := by
  have isDigit (b : UInt8) (member : b ∈ spelled front) : isDigitByte b = true := by
    obtain ⟨digit, -, rfl⟩ := List.mem_map.mp member
    exact isDigitByte_digitByte digit
  rw [List.takeWhile_append_of_pos isDigit]
  cases rest with
  | nil => simp
  | cons b others =>
    have noDigit : isDigitByte b = false := stops
    simp [noDigit]

/-- The digits that are passed over raise the exponent. -/
theorem readLongInteger_spelled (positive : Bool) (digits : Nat) (more : List Digit)
    (bytes : Bytes) :
    startsWithDigit bytes = false →
      readLongInteger positive digits (spelled more ++ bytes) =
        match bytes with
        | 0x2e :: behind => readFraction positive digits more.length behind
        | behind => readScaled positive digits more.length behind := by
  intro stops
  have length : (spelled more).length = more.length := List.length_map _
  rw [readLongInteger]
  simp only [takeWhile_spelled more stops, dropWhile_spelled, dropWhile_of_stops stops, length]
  rfl

/-- What is read of an integer after the digits that fit 64 bits. -/
theorem tail_of_readLongInteger
    (goesOn : startsWithDigit bytes = true)
    (reads : readLongInteger positive digits bytes = .ok (number, rest)) :
    ∃ more places scale, more ≠ [] ∧
      bytes = spelled more ++ (pointed places ++ (scaled scale ++ rest)) ∧
      readLongInteger positive digits (spelled more ++ (pointed places ++ scaled scale)) =
        .ok (number, []) := by
  obtain ⟨more, moreSome, splitMore, stops⟩ := exists_spelled_of_startsWithDigit goesOn
  generalize bytes.dropWhile isDigitByte = behind at splitMore stops
  subst splitMore
  rw [readLongInteger_spelled _ _ more behind stops] at reads
  have alike (places : List Digit) (scale : Option Scale) :=
    readLongInteger_spelled positive digits more _ (startsWithDigit_tail places scale)
  refine ⟨more, ?_⟩
  split at reads
  next after =>
    obtain ⟨places, scale, somePlace, split, alone⟩ := fraction_of_readFraction reads
    obtain ⟨first, others, rfl⟩ := List.exists_cons_of_ne_nil somePlace
    refine ⟨first :: others, scale, moreSome, ?_, (alike _ _).trans alone⟩
    rw [split]
    rfl
  next unpointed =>
    obtain ⟨scale, split, alone⟩ := scaled_of_readScaled reads
    refine ⟨[], scale, moreSome, congrArg _ split, (alike _ _).trans ?_⟩
    cases scale with
    | none => exact alone
    | some scale =>
      obtain ⟨capital, sign, digits, ne_nil⟩ := scale
      cases capital <;> exact alone

/-! ## Literals -/

/-- A number whose first digit is not zero. -/
theorem readNumber_of_ne_zero (positive : Bool) {digit : Digit} (notZero : digit ≠ 0)
    (after : Bytes) :
    readNumber positive (digitByte digit :: after) =
      if startsWithDigit (readDigits UInt64.size 0 0 (digitByte digit :: after)).2.2 then
        readLongInteger positive (readDigits UInt64.size 0 0 (digitByte digit :: after)).1
          (readDigits UInt64.size 0 0 (digitByte digit :: after)).2.2
      else
        readAfterInteger positive (readDigits UInt64.size 0 0 (digitByte digit :: after)).1
          (readDigits UInt64.size 0 0 (digitByte digit :: after)).2.2 := by
  rw [readNumber.eq_3]
  · rw [isDigitByte_digitByte]
    rfl
  · intro same
    revert digit
    decide

/-- What is read of bytes is read of a literal at their front, whatever follows it. -/
def ReadsLiteral (positive : Bool) (bytes : Bytes) (number : Number) (rest : Bytes) : Prop :=
  ∃ literal : Literal, literal.negative = !positive ∧ bytes = literal.magnitude ++ rest ∧
    readNumber positive literal.magnitude = .ok (number, [])

/-- A number that begins with zero has no other whole digit. -/
theorem readsLiteral_of_zero (reads : readAfterInteger positive 0 bytes = .ok (number, rest)) :
    ReadsLiteral positive (0x30 :: bytes) number rest := by
  obtain ⟨places, scale, split, alone⟩ := tail_of_readAfterInteger reads
  refine ⟨⟨!positive, [0], places, scale, by simp, fun _ => rfl⟩, rfl, ?_, ?_⟩
  · simp only [Literal.magnitude, List.append_assoc, split]
    rfl
  · have text : spelled [0] ++ (pointed places ++ scaled scale) =
        0x30 :: (pointed places ++ scaled scale) := rfl
    rw [Literal.magnitude, text, readNumber.eq_2, startsWithDigit_tail]
    exact alone

/-- The first digits of a number are read as `value`, whatever part of `bytes` they stand before. -/
def ReadsAlike (positive : Bool) (digit : Digit) (front : List Digit) (value : Nat)
    (bytes : Bytes) : Prop :=
  ∀ kept after more, bytes = kept ++ after → spelled front ++ kept = digitByte digit :: more →
    readNumber positive (digitByte digit :: more) =
      if startsWithDigit kept then readLongInteger positive value kept
      else readAfterInteger positive value kept

section
variable {digit : Digit} {front : List Digit} {others : Bytes} {value : Nat}

/-- A number that goes on where 64 bits end. -/
theorem readsLiteral_of_long (notZero : digit ≠ 0)
    (again : ReadsAlike positive digit front value bytes)
    (begins : digitByte digit :: others = spelled front ++ bytes)
    (goesOn : startsWithDigit bytes = true)
    (reads : readLongInteger positive value bytes = .ok (number, rest)) :
    ReadsLiteral positive (digitByte digit :: others) number rest := by
  obtain ⟨more, places, scale, nonempty, split, alone⟩ := tail_of_readLongInteger goesOn reads
  have joined : digitByte digit :: others =
      spelled (front ++ more) ++ (pointed places ++ (scaled scale ++ rest)) := by
    rw [begins, split, spelled_append, List.append_assoc]
  obtain ⟨whole, full⟩ : ∃ whole, front ++ more = digit :: whole := by
    obtain ⟨first, whole, full⟩ := List.exists_cons_of_ne_nil
      (List.append_ne_nil_of_right_ne_nil front nonempty)
    rw [full] at joined
    obtain rfl := digitByte_injective (List.cons.inj joined).1
    exact ⟨whole, full⟩
  rw [full] at joined
  refine ⟨⟨!positive, digit :: whole, places, scale, by simp, by simp [notZero]⟩, rfl, ?_, ?_⟩
  · simp only [Literal.magnitude, List.append_assoc]
    exact joined
  · have starts : spelled front ++ (spelled more ++ (pointed places ++ scaled scale)) =
        digitByte digit :: (spelled whole ++ (pointed places ++ scaled scale)) := by
      rw [← List.append_assoc, ← spelled_append, full]
      rfl
    rw [← List.append_assoc, ← List.append_assoc, List.append_assoc (spelled more)] at split
    refine (again _ _ _ split starts).trans ?_
    rw [startsWithDigit_spelled nonempty]
    exact alone

/-- A number whose integer digits fit 64 bits. -/
theorem readsLiteral_of_short (notZero : digit ≠ 0)
    (again : ReadsAlike positive digit front value bytes)
    (begins : digitByte digit :: others = spelled front ++ bytes)
    (stops : startsWithDigit bytes = false)
    (reads : readAfterInteger positive value bytes = .ok (number, rest)) :
    ReadsLiteral positive (digitByte digit :: others) number rest := by
  obtain ⟨places, scale, split, alone⟩ := tail_of_readAfterInteger reads
  obtain ⟨whole, rfl⟩ := exists_cons_of_spelled begins stops
  refine ⟨⟨!positive, digit :: whole, places, scale, by simp, by simp [notZero]⟩, rfl, ?_, ?_⟩
  · simp only [Literal.magnitude, List.append_assoc]
    rw [begins, split]
  · rw [← List.append_assoc] at split
    refine (again _ _ _ split rfl).trans ?_
    rw [startsWithDigit_tail]
    exact alone

end

/-- A number from its first digit on is a literal, and what is read of it does not depend on what
follows. -/
theorem literal_of_readNumber (reads : readNumber positive bytes = .ok (number, rest)) :
    ReadsLiteral positive bytes number rest := by
  unfold readNumber at reads
  split at reads
  · cases reads
  next behind =>
    split at reads
    · cases reads
    · exact readsLiteral_of_zero reads
  next b others notZero =>
    split at reads
    · cases reads
    next isDigit =>
      obtain ⟨digit, rfl⟩ := exists_of_isDigitByte (by simpa using isDigit)
      have digitNe : digit ≠ 0 := by
        rintro rfl
        exact notZero rfl
      obtain ⟨front, begins, -, -, alone⟩ :=
        readDigits_spelled UInt64.size 0 0 (digitByte digit :: others)
      dsimp only at reads
      generalize readDigits UInt64.size 0 0 (digitByte digit :: others) = result
        at reads begins alone
      have again : ReadsAlike positive digit front result.1 result.2.2 := by
        intro kept after more split starts
        rw [readNumber_of_ne_zero positive digitNe, ← starts, alone _ _ split]
      split at reads
      next goesOn => exact readsLiteral_of_long digitNe again begins goesOn reads
      next stops => exact readsLiteral_of_short digitNe again begins (by simpa using stops) reads

/-- The number that is read of a literal, if it is not too large. -/
def Literal.number? (literal : Literal) : Option Number :=
  match readNumber (!literal.negative) literal.magnitude with
  | .ok (number, _) => some number
  | .error _ => none

/-- A literal is read as a number, by itself and to its end. -/
def Literal.Reads (literal : Literal) (number : Number) : Prop :=
  readNumber (!literal.negative) literal.magnitude = .ok (number, [])

/-- A literal is read as one number. -/
theorem Literal.Reads.number?_eq {literal : Literal} (reads : literal.Reads number) :
    literal.number? = some number := by
  have read : readNumber (!literal.negative) literal.magnitude = _ := reads
  rw [Literal.number?, read]

/-- A number that is read is spelled by a literal that is read as this number. -/
theorem exists_literal (reads : readNumber positive bytes = .ok (number, rest)) :
    ∃ literal : Literal, literal.negative = !positive ∧ bytes = literal.magnitude ++ rest ∧
      literal.Reads number := by
  obtain ⟨literal, sign, split, alone⟩ := literal_of_readNumber reads
  refine ⟨literal, sign, split, ?_⟩
  rw [Literal.Reads, sign, Bool.not_not, alone]

/-! ## Integers -/

/-- A literal is an integer of 64 bits, with or without sign, and written as one. -/
structure Literal.IsWhole (literal : Literal) : Prop where
  places : literal.places = []
  scale : literal.scale = none
  lower : -2 ^ 63 ≤ literal.value
  upper : literal.value < 2 ^ 64

/-- An integer is read as such if nothing behind it continues it. -/
theorem readNumber_append_of_whole {literal : Literal} (places : literal.places = [])
    (scale : literal.scale = none) (fits : valueFrom 0 literal.whole < UInt64.size)
    (stops : startsWithDigit rest = false)
    (ends : readAfterInteger positive (valueFrom 0 literal.whole) rest =
      wholeNumber positive (valueFrom 0 literal.whole) rest) :
    readNumber positive (literal.magnitude ++ rest) =
      wholeNumber positive (valueFrom 0 literal.whole) rest := by
  obtain ⟨negative, whole, _, _, ne_nil, no_leading_zero⟩ := literal
  obtain rfl := places
  obtain rfl := scale
  obtain ⟨first, others, rfl⟩ := List.exists_cons_of_ne_nil ne_nil
  have text : Literal.magnitude ⟨negative, first :: others, [], none, ne_nil, no_leading_zero⟩ =
      spelled (first :: others) := List.append_nil _
  rw [text]
  by_cases zero : first = 0
  · obtain rfl := zero
    obtain ⟨-, rfl⟩ := List.cons.inj (no_leading_zero rfl)
    change readNumber positive (0x30 :: rest) = _
    rw [readNumber.eq_2, stops]
    exact ends
  · have read : readDigits UInt64.size 0 0 (spelled (first :: others) ++ rest) = _ :=
      readDigits_of_lt fits stops
    have starts : spelled (first :: others) ++ rest =
        digitByte first :: (spelled others ++ rest) := rfl
    rw [starts, readNumber_of_ne_zero positive zero, ← starts, read]
    dsimp only
    rw [stops]
    exact ends

/-- Whole digits that fit 64 bits are read as a whole number. -/
theorem readNumber_of_whole {literal : Literal} (places : literal.places = [])
    (scale : literal.scale = none) (fits : valueFrom 0 literal.whole < UInt64.size) :
    readNumber positive literal.magnitude =
      wholeNumber positive (valueFrom 0 literal.whole) [] := by
  rw [← readNumber_append_of_whole places scale fits rfl rfl, List.append_nil]

/-- Integers are read as they are, but that negative zero is not an integer. -/
theorem number?_of_isWhole {literal : Literal} (isWhole : literal.IsWhole) :
    (∃ n : ℤ, (n : ℚ) = literal.value ∧ literal.number? = some (.integer n)) ∨
      literal.value = 0 ∧ literal.number? = some (.float (.zero true)) := by
  obtain ⟨places, scale, lower, upper⟩ := isWhole
  have value : literal.value =
      (if literal.negative then -1 else 1) * (valueFrom 0 literal.whole : ℚ) := by
    simp [Literal.value, places, scale]
  generalize magnitude : valueFrom 0 literal.whole = n at value
  rw [value] at lower upper ⊢
  cases sign : literal.negative with
  | false =>
    simp only [sign, Bool.false_eq_true, ↓reduceIte, one_mul] at lower upper ⊢
    have fits : n < UInt64.size := by exact_mod_cast upper
    have read : readNumber true literal.magnitude = _ :=
      readNumber_of_whole places scale (magnitude ▸ fits)
    left
    refine ⟨n, by simp, ?_⟩
    rw [Literal.number?, sign, Bool.not_false, read, magnitude]
    rfl
  | true =>
    simp only [sign, ↓reduceIte, neg_mul, one_mul] at lower upper ⊢
    have fits : n ≤ 2 ^ 63 := by exact_mod_cast neg_le_neg_iff.mp lower
    have read : readNumber false literal.magnitude = _ :=
      readNumber_of_whole places scale
        (magnitude ▸ Nat.lt_of_le_of_lt fits (by decide))
    rw [Literal.number?, sign, Bool.not_true, read, magnitude]
    by_cases zero : n = 0
    · right
      subst zero
      exact ⟨by simp, by decide⟩
    · left
      have small : n ≤ int64Bound := fits
      exact ⟨-n, by simp, by simp [wholeNumber, zero, small]⟩

/-! ## Numbers that are passed over -/

/-- An exponent that is passed over is spelled. -/
theorem scale_of_skipExponent (marked : startsWithExponent bytes = true)
    (passes : skipExponent bytes.tail = .ok rest) :
    ∃ scale : Scale, bytes = scale.text ++ rest := by
  obtain ⟨capital, behind, rfl⟩ := exists_mark marked
  have signed (sign : Sign) {unsigned : Bytes} (isSigned : behind = sign.text ++ unsigned)
      (passes : (if startsWithDigit unsigned then .ok (unsigned.dropWhile isDigitByte)
        else failAt .invalidNumber unsigned.tail) = Except.ok rest) :
      ∃ scale : Scale, (if capital then 0x45 else 0x65) :: behind = scale.text ++ rest := by
    split at passes
    next goesOn =>
      obtain ⟨front, someDigit, split, -⟩ := exists_spelled_of_startsWithDigit goesOn
      rw [Except.ok.inj passes] at split
      refine ⟨⟨capital, sign, front, someDigit⟩, ?_⟩
      rw [isSigned, split]
      simp [Scale.text]
    next => cases passes
  unfold skipExponent at passes
  cases behind with
  | nil => exact signed .unwritten rfl passes
  | cons b others =>
    dsimp only [List.tail_cons] at passes
    split at passes
    next isSign =>
      rcases (by simpa using isSign : b = 0x2b ∨ b = 0x2d) with rfl | rfl
      · exact signed .plus rfl passes
      · exact signed .minus rfl passes
    next => exact signed .unwritten rfl passes

/-- So is a fraction. -/
theorem tail_of_skipFraction (passes : skipFraction bytes = .ok rest) :
    ∃ places scale, bytes = pointed places ++ (scaled scale ++ rest) := by
  have ends {bytes : Bytes} (passes : (if startsWithExponent bytes then skipExponent bytes.tail
      else .ok bytes) = .ok rest) : ∃ scale, bytes = scaled scale ++ rest := by
    split at passes
    next marked =>
      obtain ⟨scale, split⟩ := scale_of_skipExponent marked passes
      exact ⟨some scale, split⟩
    next => exact ⟨none, Except.ok.inj passes⟩
  unfold skipFraction at passes
  split at passes
  next behind =>
    split at passes
    next goesOn =>
      obtain ⟨places, somePlace, split, -⟩ := exists_spelled_of_startsWithDigit goesOn
      obtain ⟨scale, splitScale⟩ := ends passes
      obtain ⟨first, others, rfl⟩ := List.exists_cons_of_ne_nil somePlace
      refine ⟨first :: others, scale, ?_⟩
      rw [split, splitScale]
      rfl
    next => cases passes
  next =>
    obtain ⟨scale, split⟩ := ends passes
    exact ⟨[], scale, split⟩

/-- So is a number. -/
theorem literal_of_skipNumber (negative : Bool) (passes : skipNumber bytes = .ok rest) :
    ∃ literal : Literal, literal.negative = negative ∧ bytes = literal.magnitude ++ rest := by
  unfold skipNumber at passes
  split at passes
  next behind =>
    split at passes
    · cases passes
    next =>
      obtain ⟨places, scale, split⟩ := tail_of_skipFraction passes
      refine ⟨⟨negative, [0], places, scale, by simp, fun _ => rfl⟩, rfl, ?_⟩
      simp only [Literal.magnitude, List.append_assoc, split]
      rfl
  next b others notZero =>
    split at passes
    next isDigit =>
      obtain ⟨digit, rfl⟩ := exists_of_isDigitByte isDigit
      have digitNe : digit ≠ 0 := by
        rintro rfl
        exact notZero rfl
      obtain ⟨whole, split, -⟩ := exists_spelled_dropWhile others
      obtain ⟨places, scale, splitTail⟩ := tail_of_skipFraction passes
      refine ⟨⟨negative, digit :: whole, places, scale, by simp, by simp [digitNe]⟩, rfl, ?_⟩
      simp only [Literal.magnitude, List.append_assoc]
      rw [split, splitTail]
      rfl
    next => cases passes
  next => cases passes

end Switchboard.Json
