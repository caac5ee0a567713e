import Switchboard.Proofs.Json.Numbers
import Switchboard.Proofs.Json.Strings

/-!
# Writing numbers

The text that is written for a number is a literal: an integer's digits (`encode_repr`), or the
shortest decimal of a binary64 number in positional notation or with an exponent
(`encode_compactText`). So each literal that is read has one that is written for it, `Literal.sent`,
which has the same value where the literal is an integer of 64 bits (`value_sent`).
-/

namespace Switchboard.Json

open Decimal
open Text (encode)

/-! ## Decimal digits -/

/-- The decimal digits of a number. -/
def decimal (n : Nat) : List Digit :=
  if n < 10 then [Fin.ofNat 10 n] else decimal (n / 10) ++ [Fin.ofNat 10 n]

/-- The last decimal digits of a number. -/
def lastDigits : (count : Nat) → (n : Nat) → List Digit
  | 0, _ => []
  | count + 1, n => lastDigits count (n / 10) ++ [Fin.ofNat 10 n]

/-- Below ten one digit is enough. -/
theorem decimal_of_lt {n : Nat} (small : n < 10) : decimal n = [Fin.ofNat 10 n] := by
  rw [decimal, if_pos small]

/-- From ten on the last digit stands behind those of the tenth. -/
theorem decimal_of_le {n : Nat} (large : 10 ≤ n) :
    decimal n = decimal (n / 10) ++ [Fin.ofNat 10 n] := by
  rw [decimal, if_neg (Nat.not_lt_of_le large)]

/-- Every number has a digit. -/
theorem decimal_ne_nil (n : Nat) : decimal n ≠ [] := by
  rw [decimal]
  split <;> simp

/-- A digit more makes ten times as much and the digit. -/
theorem valueFrom_concat (start : Nat) (front : List Digit) (digit : Digit) :
    valueFrom start (front ++ [digit]) = valueFrom start front * 10 + digit.val := by
  simp [valueFrom]

/-- The decimal digits of a number spell it. -/
theorem valueFrom_decimal (n : Nat) : valueFrom 0 (decimal n) = n := by
  induction n using decimal.induct with
  | case1 n small =>
    rw [decimal_of_lt small]
    simp [valueFrom, Nat.mod_eq_of_lt small]
  | case2 n large ih =>
    rw [decimal_of_le (Nat.le_of_not_lt large), valueFrom_concat, ih]
    simp only [Fin.val_ofNat]
    omega

/-- A number begins with a zero only if it is zero. -/
theorem head?_decimal {n : Nat} (leading : (decimal n).head? = some 0) : decimal n = [0] := by
  induction n using decimal.induct with
  | case1 n small =>
    rw [decimal_of_lt small] at leading ⊢
    simpa using leading
  | case2 n large ih =>
    -- The first digit is that of a smaller number, which would be zero.
    have value := valueFrom_decimal (n / 10)
    obtain ⟨first, others, digits⟩ := List.exists_cons_of_ne_nil (decimal_ne_nil (n / 10))
    rw [decimal_of_le (Nat.le_of_not_lt large), digits] at leading
    rw [digits] at ih
    rw [digits, ih leading] at value
    simp [valueFrom] at value
    omega

/-- The characters of digits. -/
def digitChars (digits : List Digit) : List Char := digits.map fun digit => Nat.digitChar digit.val

/-- Digits are written one by one. -/
@[simp] theorem digitChars_append (first second : List Digit) :
    digitChars (first ++ second) = digitChars first ++ digitChars second :=
  List.map_append

/-- The bytes of written digits. -/
theorem encode_digitChars (digits : List Digit) : encode (digitChars digits) = spelled digits := by
  induction digits with
  | nil => rfl
  | cons digit others ih =>
    have single : encode [Nat.digitChar digit.val] = [digitByte digit] := by
      revert digit
      decide
    rw [← List.singleton_append, digitChars_append, Text.encode_append, ih, spelled_append]
    exact congrArg (· ++ _) single

/-- The characters of a number's text are its digits. -/
theorem toList_repr (n : Nat) : n.repr.toList = digitChars (decimal n) := by
  rw [Nat.toList_repr]
  induction n using decimal.induct with
  | case1 n small =>
    rw [decimal_of_lt small, Nat.toDigits_of_lt_base small]
    simp [digitChars, Nat.mod_eq_of_lt small]
  | case2 n large ih =>
    rw [decimal_of_le (Nat.le_of_not_lt large),
      Nat.toDigits_of_base_le (by decide) (Nat.le_of_not_lt large), ih, digitChars_append]
    rfl

/-- A natural is written as its decimal digits. -/
theorem encode_repr (n : Nat) : encode n.repr.toList = spelled (decimal n) := by
  rw [toList_repr, encode_digitChars]

/-- Its text has a character for each digit. -/
theorem length_repr (n : Nat) : n.repr.length = (decimal n).length := by
  rw [← String.length_toList, toList_repr, digitChars, List.length_map]

/-- Zeros behind a number that is not zero. -/
theorem decimal_mul {n : Nat} (positive : 0 < n) (count : Nat) :
    decimal (n * 10 ^ count) = decimal n ++ List.replicate count 0 := by
  induction count with
  | zero => simp
  | succ count ih =>
    have large : 10 ≤ n * 10 ^ (count + 1) := by
      rw [Nat.pow_succ, ← Nat.mul_assoc]
      exact Nat.le_mul_of_pos_left 10 (Nat.mul_pos positive (Nat.pow_pos (by decide)))
    have shifted : n * 10 ^ (count + 1) / 10 = n * 10 ^ count := by
      rw [Nat.pow_succ, ← Nat.mul_assoc, Nat.mul_div_cancel _ (by decide)]
    have last : Fin.ofNat 10 (n * 10 ^ (count + 1)) = 0 := by
      rw [Nat.pow_succ, ← Nat.mul_assoc]
      exact Fin.ext (Nat.mul_mod_left _ _)
    rw [decimal_of_le large, shifted, ih, last, List.append_assoc, ← List.replicate_succ']

/-- There are as many last digits as are asked for. -/
theorem length_lastDigits (count n : Nat) : (lastDigits count n).length = count := by
  induction count generalizing n with
  | zero => rfl
  | succ count ih => rw [lastDigits, List.length_append, ih]; rfl

/-- A number's digits before and from a point on. -/
theorem decimal_split {count n : Nat} (fewer : count < (decimal n).length) :
    decimal n = decimal (n / 10 ^ count) ++ lastDigits count n := by
  induction count generalizing n with
  | zero => simp [lastDigits]
  | succ count ih =>
    have large : 10 ≤ n := by
      by_contra small
      rw [decimal_of_lt (Nat.lt_of_not_le small)] at fewer
      simp at fewer
    rw [decimal_of_le large, List.length_append] at fewer
    rw [decimal_of_le large, ih (Nat.lt_of_succ_lt_succ fewer), lastDigits, Nat.div_div_eq_div_mul,
      ← Nat.pow_succ', List.append_assoc]

/-- The last digits of zero are zeros. -/
theorem lastDigits_zero (count : Nat) : lastDigits count 0 = List.replicate count 0 := by
  induction count with
  | zero => rfl
  | succ count ih =>
    rw [lastDigits, Nat.zero_div, ih, List.replicate_succ']
    rfl

/-- More places than a number has digits are filled with zeros. -/
theorem lastDigits_of_le {count n : Nat} (all : (decimal n).length ≤ count) :
    lastDigits count n = List.replicate (count - (decimal n).length) 0 ++ decimal n ∧
      n / 10 ^ count = 0 := by
  induction count generalizing n with
  | zero => exact absurd (List.eq_nil_of_length_eq_zero (Nat.le_zero.mp all)) (decimal_ne_nil n)
  | succ count ih =>
    by_cases small : n < 10
    · have zero : n / 10 = 0 := Nat.div_eq_of_lt small
      rw [lastDigits, zero, lastDigits_zero, decimal_of_lt small, Nat.pow_succ',
        ← Nat.div_div_eq_div_mul, zero, Nat.zero_div]
      exact ⟨rfl, rfl⟩
    · rw [decimal_of_le (Nat.le_of_not_lt small), List.length_append] at all ⊢
      obtain ⟨digits, zero⟩ := ih (Nat.le_of_succ_le_succ all)
      rw [lastDigits, digits, Nat.pow_succ', ← Nat.div_div_eq_div_mul, zero, List.append_assoc]
      exact ⟨congrArg (List.replicate · 0 ++ _) (by simp), rfl⟩

/-- Digits count on from those before them. -/
theorem valueFrom_append (start : Nat) (first second : List Digit) :
    valueFrom start (first ++ second) = valueFrom (valueFrom start first) second :=
  List.foldl_append

/-- The digits before and from a point on spell a number together. -/
theorem valueFrom_lastDigits (count n : Nat) :
    valueFrom (n / 10 ^ count) (lastDigits count n) = n := by
  induction count generalizing n with
  | zero => simp [lastDigits, valueFrom]
  | succ count ih =>
    rw [lastDigits, valueFrom_concat, Nat.pow_succ', ← Nat.div_div_eq_div_mul, ih, Fin.val_ofNat]
    omega

/-! ## Literals that are written -/

/-- The literal of an integer. -/
def Literal.ofInt (n : ℤ) : Literal where
  negative := n < 0
  whole := decimal n.natAbs
  places := []
  scale := none
  ne_nil := decimal_ne_nil _
  no_leading_zero := head?_decimal

/-- An integer is written as its literal. -/
theorem encode_toString (n : ℤ) : encode (toString n).toList = (Literal.ofInt n).text := by
  rw [Int.toString_eq_repr, Int.repr_eq_if]
  by_cases sign : 0 ≤ n
  · rw [if_pos sign, encode_repr]
    have natAbs : n.toNat = n.natAbs := by omega
    simp [Literal.ofInt, Literal.text, Literal.magnitude, pointed, scaled, natAbs, sign]
  · have natAbs : (-n).toNat = n.natAbs := by omega
    have minus : encode "-".toList = [0x2d] := by decide
    rw [if_neg sign, String.toList_append, Text.encode_append, encode_repr, minus]
    simp [Literal.ofInt, Literal.text, Literal.magnitude, pointed, scaled, natAbs,
      Int.lt_of_not_ge sign]

/-- The literal of an integer has its value. -/
theorem value_ofInt (n : ℤ) : (Literal.ofInt n).value = n := by
  have magnitude : (Literal.ofInt n).value = (if n < 0 then -1 else 1) * (n.natAbs : ℚ) := by
    simp [Literal.value, Literal.ofInt, valueFrom_decimal]
  rw [magnitude]
  split
  next negative =>
    have signed : (n.natAbs : ℤ) = -n := by omega
    rw [← Int.cast_natCast, signed, Int.cast_neg, neg_mul_neg, one_mul]
  next natural =>
    have unsigned : (n.natAbs : ℤ) = n := by omega
    rw [← Int.cast_natCast, unsigned, one_mul]

/-- The literal of a decimal in positional notation, with a point. -/
def Literal.positional (negative : Bool) (s : Scientific) : Literal where
  negative
  whole :=
    if 0 ≤ s.exponent then decimal (s.digits * 10 ^ s.exponent.toNat)
    else decimal (s.digits / 10 ^ (-s.exponent).toNat)
  places := if 0 ≤ s.exponent then [0] else lastDigits (-s.exponent).toNat s.digits
  scale := none
  ne_nil := by split <;> exact decimal_ne_nil _
  no_leading_zero := by split <;> exact head?_decimal

/-- An exponent that is written with its sign. -/
def Scale.ofInt (exponent : ℤ) : Scale where
  capital := false
  sign := if 0 ≤ exponent then .plus else .minus
  digits := decimal exponent.natAbs
  ne_nil := decimal_ne_nil _

/-- So has an exponent. -/
theorem value_scaleOfInt (exponent : ℤ) : (Scale.ofInt exponent).value = exponent := by
  rw [Scale.value, Scale.ofInt, valueFrom_decimal]
  by_cases sign : 0 ≤ exponent
  · simp only [if_pos sign, Sign.upward, ↓reduceIte]
    omega
  · simp only [if_neg sign, Sign.upward, Bool.false_eq_true, ↓reduceIte]
    omega

/-- The literal of a decimal with one digit before the point and an exponent. -/
def Literal.exponential (negative : Bool) (s : Scientific) : Literal where
  negative
  whole := (decimal s.digits).take 1
  places := (decimal s.digits).drop 1
  scale := some (.ofInt (s.exponent + (decimal s.digits).length - 1))
  ne_nil := by simp [decimal_ne_nil]
  no_leading_zero := by
    obtain ⟨first, others, digits⟩ := List.exists_cons_of_ne_nil (decimal_ne_nil s.digits)
    simp [digits]

/-- The literal that is written for a binary64 number. -/
def Literal.ofBinary64 (x : Binary64) : Literal :=
  let s := x.shortest
  let point := (decimal s.digits).length + s.exponent
  if x.isZero then ⟨x.negative, [0], [0], none, by simp, fun _ => rfl⟩
  else if -5 < point ∧ point ≤ 16 then .positional x.negative s
  else .exponential x.negative s

/-- There is no point among digits. -/
theorem not_mem_digitChars (digits : List Digit) : '.' ∉ digitChars digits := by
  intro member
  obtain ⟨digit, -, same⟩ := List.mem_map.mp member
  revert digit
  decide

/-- The bytes of digits before and after a point. -/
theorem encode_point (whole : List Digit) {places : List Digit} (somePlace : places ≠ []) :
    encode (digitChars whole ++ '.' :: digitChars places) = spelled whole ++ pointed places := by
  obtain ⟨first, others, rfl⟩ := List.exists_cons_of_ne_nil somePlace
  rw [Text.encode_append, encode_cons_of_lt (by decide), encode_digitChars, encode_digitChars]
  rfl

theorem replicate_zero (count : Nat) :
    List.replicate count '0' = digitChars (List.replicate count 0) := by
  rw [digitChars, List.map_replicate]
  rfl

/-- The characters of a decimal without places. -/
theorem toList_positional_of_le {s : Scientific} (nonzero : 0 < s.digits)
    (sign : 0 ≤ s.exponent) :
    (Binary64.positional s).toList = digitChars (decimal (s.digits * 10 ^ s.exponent.toNat)) := by
  rw [Binary64.positional, if_pos sign, String.toList_append, String.toList_ofList, toList_repr,
    replicate_zero, decimal_mul nonzero, digitChars_append]

/-- The characters of a decimal with places. -/
theorem toList_positional_of_lt {s : Scientific} (sign : ¬ 0 ≤ s.exponent) :
    (Binary64.positional s).toList =
      digitChars (decimal (s.digits / 10 ^ (-s.exponent).toNat)) ++
        '.' :: digitChars (lastDigits (-s.exponent).toNat s.digits) := by
  rw [Binary64.positional, if_neg sign]
  generalize (-s.exponent).toNat = places
  simp only [length_repr]
  by_cases fewer : places < (decimal s.digits).length
  · have split := decimal_split fewer
    have size : (decimal s.digits).length - places =
        (digitChars (decimal (s.digits / 10 ^ places))).length := by
      have total := congrArg List.length split
      rw [List.length_append, length_lastDigits] at total
      rw [digitChars, List.length_map]
      omega
    have chars : (Nat.repr s.digits).toList =
        digitChars (decimal (s.digits / 10 ^ places)) ++
          digitChars (lastDigits places s.digits) := by
      rw [toList_repr, ← digitChars_append, ← split]
    simp only [if_pos fewer, String.toList_append, String.toList_ofList, chars, size,
      List.take_left, List.drop_left, List.append_assoc]
    rfl
  · obtain ⟨digits, zero⟩ := lastDigits_of_le (Nat.le_of_not_lt fewer)
    have front : "0.".toList = digitChars (decimal 0) ++ ['.'] := by
      rw [decimal_of_lt (by decide)]
      decide
    simp only [if_neg fewer, String.toList_append, String.toList_ofList, toList_repr, digits, zero,
      digitChars_append, replicate_zero, front, List.append_assoc, List.cons_append,
      List.nil_append]

/-- A decimal that is written in full is written as its positional literal. -/
theorem encode_positional {s : Scientific} (nonzero : 0 < s.digits) (negative : Bool) :
    encode (Binary64.withPoint (Binary64.positional s)).toList =
      (Literal.positional negative s).magnitude := by
  by_cases sign : 0 ≤ s.exponent
  · have digits := toList_positional_of_le nonzero sign
    have unpointed : (Binary64.positional s).toList.contains '.' = false := by
      rw [digits]
      simpa using not_mem_digitChars _
    have zero : ".0".toList = '.' :: digitChars [0] := by decide
    rw [Binary64.withPoint, unpointed, if_neg Bool.false_ne_true, String.toList_append, digits,
      zero, encode_point _ (List.cons_ne_nil _ _)]
    simp [Literal.magnitude, Literal.positional, sign, scaled]
  · have digits := toList_positional_of_lt sign
    have pointed : (Binary64.positional s).toList.contains '.' = true := by
      rw [digits]
      simp
    have somePlace : lastDigits (-s.exponent).toNat s.digits ≠ [] := by
      rw [ne_eq, ← List.length_eq_zero_iff, length_lastDigits]
      omega
    rw [Binary64.withPoint, pointed, if_pos rfl, digits, encode_point _ somePlace]
    simp [Literal.magnitude, Literal.positional, sign, scaled]

/-- The bytes of an exponent with its sign. -/
theorem encode_exponent (exponent : ℤ) :
    encode ("e" ++ (if 0 ≤ exponent then "+" else "-") ++ Nat.repr exponent.natAbs).toList =
      scaled (some (.ofInt exponent)) := by
  have letter : encode "e".toList = [0x65] := by decide
  have plus : encode "+".toList = [0x2b] := by decide
  have minus : encode "-".toList = [0x2d] := by decide
  rw [String.toList_append, String.toList_append, Text.encode_append, Text.encode_append,
    encode_repr, letter]
  by_cases sign : 0 ≤ exponent
  · rw [if_pos sign, plus]
    simp [scaled, Scale.ofInt, Scale.text, Sign.text, sign]
  · rw [if_neg sign, minus]
    simp [scaled, Scale.ofInt, Scale.text, Sign.text, sign]

/-- The bytes of a digit and the places after it. -/
theorem encode_mantissa (digits : List Digit) :
    encode (match digitChars digits with
      | first :: second :: rest => String.ofList (first :: '.' :: second :: rest)
      | other => String.ofList other).toList =
      spelled (digits.take 1) ++ pointed (digits.drop 1) := by
  match digits with
  | [] => rfl
  | [digit] =>
    refine (congrArg encode String.toList_ofList).trans ?_
    exact (encode_digitChars [digit]).trans (List.append_nil _).symm
  | first :: second :: rest =>
    refine (congrArg encode String.toList_ofList).trans ?_
    exact encode_point [first] (List.cons_ne_nil second rest)

/-- One with an exponent is written as its exponential literal. -/
theorem encode_exponentText (s : Scientific) (negative : Bool) :
    encode (Binary64.exponentText s).toList = (Literal.exponential negative s).magnitude := by
  simp only [Binary64.exponentText, length_repr, toList_repr]
  rw [String.append_assoc, String.append_assoc, String.toList_append, Text.encode_append,
    ← String.append_assoc, encode_exponent, Literal.magnitude, ← List.append_assoc]
  exact congrArg (· ++ _) (encode_mantissa _)

/-! The shortest decimal of a number other than zero has a digit other than zero. -/

/-- Without its trailing zeros a decimal is still not zero. -/
theorem digits_trimZeros {s : Scientific} (nonzero : 0 < s.digits) (fuel : Nat) :
    0 < (s.trimZeros fuel).digits := by
  induction fuel generalizing s with
  | zero => exact nonzero
  | succ fuel ih =>
    rw [Scientific.trimZeros]
    split
    next trailing =>
      refine ih ?_
      simp at trailing
      dsimp only
      omega
    next => exact nonzero

/-- The first decimal that reads back is not zero. -/
theorem digits_firstGrid {x : Binary64} {num den : Nat} (nonzero : 0 < num) (point : Int)
    (fuel count : Nat) : 0 < (Binary64.firstGrid x num den point fuel count).digits := by
  induction fuel generalizing count with
  | zero => exact nonzero
  | succ fuel ih =>
    rw [Binary64.firstGrid]
    split
    next s found =>
      unfold Binary64.onGrid? at found
      grind
    next => exact ih _

/-- The shortest decimal of a number is zero only for zero. -/
theorem digits_shortest {x : Binary64} (nonzero : x.isZero = false) : 0 < x.shortest.digits := by
  have mantissa : 0 < x.mantissa := by
    simp [Binary64.isZero] at nonzero
    omega
  have num : 0 < x.ratio.1 := by
    rw [Binary64.ratio]
    split
    · exact Nat.mul_pos mantissa (Nat.pow_pos (by decide))
    · exact mantissa
  rw [Binary64.shortest, nonzero]
  exact digits_trimZeros (digits_firstGrid num _ _ _) _

/-- A sign is written in front of the magnitude. -/
theorem encode_signed {x : Binary64} {text : String} {literal : Literal}
    (sign : literal.negative = x.negative) (magnitude : encode text.toList = literal.magnitude) :
    encode (x.signed text).toList = literal.text := by
  have minus : encode "-".toList = [0x2d] := by decide
  rw [Binary64.signed, Literal.text, sign]
  split
  · rw [String.toList_append, Text.encode_append, minus, magnitude]
    rfl
  · exact magnitude

/-- A binary64 number is written as its literal. -/
theorem encode_compactText (x : Binary64) :
    encode x.compactText.toList = (Literal.ofBinary64 x).text := by
  simp only [Binary64.compactText, Literal.ofBinary64, length_repr]
  cases zero : x.isZero with
  | true =>
    have magnitude : encode "0.0".toList = [0x30, 0x2e, 0x30] := by decide
    exact encode_signed rfl magnitude
  | false =>
    rw [if_neg Bool.false_ne_true, if_neg Bool.false_ne_true]
    by_cases near : -5 < (decimal x.shortest.digits).length + x.shortest.exponent ∧
        (decimal x.shortest.digits).length + x.shortest.exponent ≤ 16
    · rw [if_pos near, if_pos (by simpa using near)]
      exact encode_signed rfl (encode_positional (digits_shortest zero) _)
    · rw [if_neg near, if_neg (by simpa using near)]
      exact encode_signed rfl (encode_exponentText _ _)

/-- A positional literal has the value of its decimal. -/
theorem value_positional (negative : Bool) (s : Scientific) :
    (Literal.positional negative s).value =
      (if negative then -1 else 1) * s.digits * 10 ^ s.exponent := by
  obtain ⟨digits, exponent⟩ := s
  by_cases sign : 0 ≤ exponent
  · lift exponent to ℕ using sign
    simp [Literal.value, Literal.positional, valueFrom_concat, valueFrom_decimal, mul_assoc]
  · obtain ⟨places, rfl⟩ : ∃ places : ℕ, exponent = -places := ⟨(-exponent).toNat, by omega⟩
    have notZero : places ≠ 0 := by omega
    simp [Literal.value, Literal.positional, notZero, valueFrom_append, valueFrom_decimal,
      valueFrom_lastDigits, length_lastDigits]

/-- So has an exponential one. -/
theorem value_exponential (negative : Bool) (s : Scientific) :
    (Literal.exponential negative s).value =
      (if negative then -1 else 1) * s.digits * 10 ^ s.exponent := by
  have nonempty : 0 < (decimal s.digits).length := List.length_pos_iff.mpr (decimal_ne_nil s.digits)
  have exponent : s.exponent + (decimal s.digits).length - 1 -
      ((decimal s.digits).length - 1 : ℕ) = s.exponent := by omega
  simp only [Literal.value, Literal.exponential, List.take_append_drop, valueFrom_decimal,
    Option.map_some, Option.getD_some, value_scaleOfInt, List.length_drop, exponent]
  rfl

/-- The literal that is written for a binary64 number is its shortest decimal. -/
theorem value_ofBinary64 (x : Binary64) :
    (Literal.ofBinary64 x).value =
      (if x.negative then -1 else 1) * x.shortest.digits * 10 ^ x.shortest.exponent := by
  simp only [Literal.ofBinary64]
  split
  next zero => simp [Binary64.shortest, zero, Literal.value, valueFrom]
  next =>
    split
    next => exact value_positional _ _
    next => exact value_exponential _ _

/-! ## What becomes of a literal -/

/-- The literal that is written for a number. -/
def Number.literal : Number → Literal
  | .integer n => .ofInt n
  | .float x => .ofBinary64 x

/-- The literal that is written for one that has been read. -/
def Literal.sent (literal : Literal) : Literal :=
  (literal.number?.map Number.literal).getD literal

/-- What is sent for a literal is the literal of what it is read as. -/
theorem sent_of_number? {literal : Literal} {number : Number}
    (reads : literal.number? = some number) : literal.sent = number.literal := by
  rw [Literal.sent, reads]
  rfl

/-- An integer of 64 bits is sent as it is. -/
theorem value_sent {literal : Literal} (isWhole : literal.IsWhole) :
    literal.sent.value = literal.value := by
  obtain ⟨n, value, read⟩ | ⟨value, read⟩ := number?_of_isWhole isWhole
  · rw [sent_of_number? read, ← value]
    exact value_ofInt n
  · rw [sent_of_number? read, value]
    simp [Number.literal, Literal.ofBinary64, Binary64.zero, Binary64.isZero, Literal.value,
      valueFrom]

end Switchboard.Json
