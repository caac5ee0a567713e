import Switchboard.Decimal.Integer

/-!
# Decimal integers and their digits

The decimal text of an integer is read as that integer (`readInt64_repr`).
-/

namespace Switchboard.Decimal

/-- Further digits make no number smaller. -/
theorem le_ofDigitChars (digits : List Char) (start : Nat) :
    start ≤ Nat.ofDigitChars 10 digits start := by
  rw [Nat.ofDigitChars_eq_ofDigitChars_zero]
  have scaled : start ≤ 10 ^ digits.length * start :=
    Nat.le_mul_of_pos_left start (Nat.pow_pos (by decide))
  exact Nat.le_add_right_of_le scaled

/-- Digits that spell a number within the limit are read as that number. -/
theorem readMagnitude_eq_ok {limit : Nat} {beyond : IntegerFault} {digits : List Char}
    (areDigits : ∀ c ∈ digits, c.isDigit = true) {start : Nat}
    (within : Nat.ofDigitChars 10 digits start ≤ limit) :
    readMagnitude limit beyond start digits = .ok (Nat.ofDigitChars 10 digits start) := by
  induction digits generalizing start with
  | nil => rfl
  | cons first rest ih =>
    have value : digitValue? first = some (first.toNat - '0'.toNat) :=
      if_pos (areDigits first List.mem_cons_self)
    rw [Nat.ofDigitChars_cons, Nat.mul_comm 10] at within ⊢
    have soFar := Nat.le_trans (le_ofDigitChars rest _) within
    simp only [readMagnitude, value, if_pos soFar]
    exact ih (fun c member => areDigits c (List.mem_cons_of_mem _ member)) within

/-- A natural is written with digits only. -/
theorem isDigit_of_mem_repr {n : Nat} {c : Char} (member : c ∈ n.repr.toList) :
    c.isDigit = true :=
  Nat.isDigit_of_mem_toDigits (by decide) (by decide) (Nat.toList_repr ▸ member)

/-- The text of an integer has digits and maybe a sign. -/
theorem mem_repr {n : Int} {c : Char} (member : c ∈ n.repr.toList) :
    c = '-' ∨ c.isDigit = true := by
  rw [Int.repr_eq_if] at member
  split at member
  · exact .inr (isDigit_of_mem_repr member)
  · rw [String.toList_append, List.mem_append] at member
    exact member.imp List.mem_singleton.mp isDigit_of_mem_repr

/-- The digits of a natural are read as it, within a limit. -/
theorem readMagnitude_repr {limit n : Nat} (beyond : IntegerFault) (within : n ≤ limit) :
    readMagnitude limit beyond 0 n.repr.toList = .ok n := by
  have spelled : Nat.ofDigitChars 10 n.repr.toList 0 = n := by
    rw [Nat.toList_repr, Nat.ofDigitChars_ten_toDigits]
  rw [readMagnitude_eq_ok (fun c => isDigit_of_mem_repr)
    (Nat.le_trans (Nat.le_of_eq spelled) within), spelled]

/-- The text of a number has a first digit. -/
theorem exists_cons_of_repr (n : Nat) :
    ∃ first rest, n.repr.toList = first :: rest ∧ first ≠ '+' ∧ first ≠ '-' := by
  obtain ⟨first, rest, digits⟩ := List.exists_cons_of_ne_nil
    (Nat.toList_repr ▸ Nat.toDigits_ne_nil : n.repr.toList ≠ [])
  have isDigit : first.isDigit = true :=
    isDigit_of_mem_repr (digits ▸ List.mem_cons_self : first ∈ n.repr.toList)
  refine ⟨first, rest, digits, ?_, ?_⟩
  · rintro rfl
    cases isDigit
  · rintro rfl
    cases isDigit

/-- A natural that fits is read as it is written. -/
theorem readInt64_natural {magnitude : Nat} (within : magnitude ≤ int64Bound - 1) :
    readInt64 magnitude.repr = .ok (Int64.ofInt magnitude) := by
  obtain ⟨first, rest, digits, notPlus, notMinus⟩ := exists_cons_of_repr magnitude
  have reads := readMagnitude_repr .tooLarge within
  rw [digits] at reads
  simp only [readInt64, digits]
  split
  case h_1 none => cases none
  case h_2 plus => exact absurd (List.cons.inj plus).1 notPlus
  case h_3 minus => exact absurd (List.cons.inj minus).1 notMinus
  case h_4 minus => exact absurd (List.cons.inj minus).1 notMinus
  case h_5 plus => exact absurd (List.cons.inj plus).1 notPlus
  case h_6 => rw [reads]; rfl

/-- So is a negative integer. -/
theorem readInt64_negative {magnitude : Nat} (within : magnitude ≤ int64Bound) :
    readInt64 ("-" ++ magnitude.repr) = .ok (Int64.ofInt (-(magnitude : Int))) := by
  obtain ⟨first, rest, digits, _, _⟩ := exists_cons_of_repr magnitude
  have reads := readMagnitude_repr .tooSmall within
  rw [digits] at reads
  have text : ("-" ++ magnitude.repr).toList = '-' :: first :: rest := by
    rw [String.toList_append, digits]
    rfl
  simp only [readInt64, text, reads]
  rfl

/-- Every 64-bit integer is read as it is written. -/
theorem readInt64_repr (n : Int64) : readInt64 n.toInt.repr = .ok n := by
  have lower := n.le_toInt
  have upper := n.toInt_lt
  rw [Int.repr_eq_if]
  by_cases sign : 0 ≤ n.toInt
  · have within : n.toInt.toNat ≤ int64Bound - 1 := by
      simp only [int64Bound]
      omega
    rw [if_pos sign, readInt64_natural within, Int.toNat_of_nonneg sign, Int64.ofInt_toInt]
  · have within : (-n.toInt).toNat ≤ int64Bound := by
      simp only [int64Bound]
      omega
    rw [if_neg sign, readInt64_negative within, Int.toNat_of_nonneg (by omega), Int.neg_neg,
      Int64.ofInt_toInt]

end Switchboard.Decimal
