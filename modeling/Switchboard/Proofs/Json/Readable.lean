import Switchboard.Proofs.Json.Canonical

/-!
# Numbers that can be read

The number that is read of a literal is the same wherever the literal may end
(`readNumber_append`), so a literal can be read if it can be read by itself
(`Literal.IsRead.readable`). An integer is read of the plain literal of that integer and of no
other: what has a point or an exponent, exceeds 64 bits, or is a negative zero, is read as a
binary64 number (`Literal.Reads.eq_ofInt`).
-/

namespace Switchboard.Json

open Decimal

variable {positive : Bool} {digits : Nat} {exponent : Int} {bytes rest after : Bytes}
  {number : Number}

/-! ## What follows a number -/

/-- Whether a digit comes next does not depend on what follows, if no digit does. -/
theorem startsWithDigit_append (stops : startsWithDigit after = false) (bytes : Bytes) :
    startsWithDigit (bytes ++ after) = startsWithDigit bytes := by
  cases bytes with
  | nil => exact stops
  | cons b others => rfl

/-- Passing digits ends at the same place, whatever follows. -/
theorem dropWhile_append (stops : startsWithDigit after = false) (bytes : Bytes) :
    (bytes ++ after).dropWhile isDigitByte = bytes.dropWhile isDigitByte ++ after := by
  induction bytes with
  | nil => exact dropWhile_of_stops stops
  | cons b others ih =>
    rw [List.cons_append, List.dropWhile_cons, List.dropWhile_cons]
    split
    · exact ih
    · rfl

/-- The same digits are counted. -/
theorem takeWhile_append (stops : startsWithDigit after = false) (bytes : Bytes) :
    (bytes ++ after).takeWhile isDigitByte = bytes.takeWhile isDigitByte := by
  obtain ⟨front, split, stopsBehind⟩ := exists_spelled_dropWhile bytes
  generalize bytes.dropWhile isDigitByte = behind at split stopsBehind
  rw [split, List.append_assoc, takeWhile_spelled front stopsBehind, takeWhile_spelled]
  exact (startsWithDigit_append stops behind).trans stopsBehind

/-- The same digits are read. -/
theorem readDigits_append (stops : startsWithDigit after = false) (limit value count : Nat)
    (bytes : Bytes) :
    readDigits limit value count (bytes ++ after) =
      ((readDigits limit value count bytes).1, (readDigits limit value count bytes).2.1,
        (readDigits limit value count bytes).2.2 ++ after) := by
  fun_induction readDigits limit value count bytes with
  | case1 value count =>
    cases after with
    | nil => rfl
    | cons b others =>
      have noDigit : digit? b = none := by simpa [startsWithDigit, isDigitByte] using stops
      simp [readDigits, noDigit]
  | case2 value count b others notDigit => simp [readDigits, notDigit]
  | case3 value count b others digit isDigit fits ih => simpa [readDigits, isDigit, fits] using ih
  | case4 value count b others digit isDigit full => simp [readDigits, isDigit, full]

/-- Where a number ends there is no exponent. -/
theorem Ends.startsWithExponent (ends : Ends after) : startsWithExponent after = false := by
  cases after with
  | nil => rfl
  | cons b others =>
    have apart : isDigitByte b = false ∧ ¬b = 0x2e ∧ ¬b = 0x65 ∧ ¬b = 0x45 := by
      simpa [Ends, continuesNumber, and_assoc] using ends
    simp [Json.startsWithExponent, apart.2.2]

/-- Where a number ends there is no point. -/
theorem Ends.ne_point (ends : Ends after) (behind : Bytes) : after ≠ 0x2e :: behind := by
  rintro rfl
  cases ends

/-- Whether an exponent comes next does not depend on what follows. -/
theorem startsWithExponent_append (ends : Ends after) (bytes : Bytes) :
    startsWithExponent (bytes ++ after) = startsWithExponent bytes := by
  cases bytes with
  | nil => exact ends.startsWithExponent
  | cons b others => rfl

/-! ## Readers of numbers, with more behind -/

/-- A number is finished in the same way, whatever follows. -/
theorem finishFloat_append
    (reads : finishFloat positive digits exponent bytes = .ok (number, rest)) (after : Bytes) :
    finishFloat positive digits exponent (bytes ++ after) = .ok (number, rest ++ after) := by
  obtain ⟨rfl, alike⟩ := finishFloat_eq_ok reads
  exact alike _

/-- An exponent is read in the same way, whatever follows. -/
theorem readExponent_append (stops : startsWithDigit after = false)
    (reads : readExponent positive digits exponent bytes = .ok (number, rest)) :
    readExponent positive digits exponent (bytes ++ after) = .ok (number, rest ++ after) := by
  obtain ⟨sign, digit, behind, rfl⟩ := exists_signed reads
  have split : sign.text ++ digitByte digit :: behind ++ after =
      sign.text ++ digitByte digit :: (behind ++ after) := by simp
  rw [readExponent_signed] at reads
  rw [split, readExponent_signed, ← List.cons_append, readDigits_append stops]
  dsimp only
  rw [startsWithDigit_append stops, dropWhile_append stops]
  split at reads
  next goesOn =>
    rw [if_pos goesOn]
    split at reads
    · cases reads
    next small =>
      cases reads
      rw [if_neg small]
  next ended =>
    rw [if_neg ended]
    exact finishFloat_append reads after

/-- So is what comes after the digits. -/
theorem readScaled_append (ends : Ends after)
    (reads : readScaled positive digits exponent bytes = .ok (number, rest)) :
    readScaled positive digits exponent (bytes ++ after) = .ok (number, rest ++ after) := by
  rw [readScaled, startsWithExponent_append ends]
  rw [readScaled] at reads
  split at reads
  next marked =>
    obtain ⟨capital, behind, rfl⟩ := exists_mark marked
    rw [if_pos marked]
    exact readExponent_append ends.startsWithDigit reads
  next unmarked =>
    rw [if_neg unmarked]
    exact finishFloat_append reads after

/-- So is a fraction. -/
theorem readFraction_append (ends : Ends after)
    (reads : readFraction positive digits exponent bytes = .ok (number, rest)) :
    readFraction positive digits exponent (bytes ++ after) = .ok (number, rest ++ after) := by
  have stops := ends.startsWithDigit
  simp only [readFraction, readDigits_append stops, startsWithDigit_append stops,
    dropWhile_append stops] at reads ⊢
  split at reads
  next goesOn =>
    rw [if_pos goesOn]
    exact readScaled_append ends reads
  next ended =>
    rw [if_neg ended]
    split at reads
    · split at reads <;> cases reads
    next someDigit =>
      rw [if_neg someDigit]
      exact readScaled_append ends reads

/-- A whole number is the same, whatever follows. -/
theorem wholeNumber_append (reads : wholeNumber positive digits bytes = .ok (number, rest))
    (after : Bytes) :
    wholeNumber positive digits (bytes ++ after) = .ok (number, rest ++ after) := by
  obtain ⟨rfl, alike⟩ := wholeNumber_eq_ok reads
  exact alike _

/-- What comes after the integer digits is read in the same way. -/
theorem readAfterInteger_append (ends : Ends after)
    (reads : readAfterInteger positive digits bytes = .ok (number, rest)) :
    readAfterInteger positive digits (bytes ++ after) = .ok (number, rest ++ after) := by
  unfold readAfterInteger at reads
  split at reads
  next behind => exact readFraction_append ends reads
  next noPoint =>
    have unpointed (behind : Bytes) : bytes ++ after ≠ 0x2e :: behind := by
      cases bytes with
      | nil => exact ends.ne_point behind
      | cons b others =>
        intro same
        obtain ⟨rfl, -⟩ := List.cons.inj same
        exact noPoint others rfl
    rw [readAfterInteger.eq_2 _ _ _ unpointed, startsWithExponent_append ends]
    split at reads
    next marked =>
      obtain ⟨capital, behind, rfl⟩ := exists_mark marked
      rw [if_pos marked]
      exact readExponent_append ends.startsWithDigit reads
    next unmarked =>
      rw [if_neg unmarked]
      exact wholeNumber_append reads after

/-- So is an integer of more than 64 bits. -/
theorem readLongInteger_append (ends : Ends after)
    (reads : readLongInteger positive digits bytes = .ok (number, rest)) :
    readLongInteger positive digits (bytes ++ after) = .ok (number, rest ++ after) := by
  have stops := ends.startsWithDigit
  unfold readLongInteger at reads ⊢
  rw [takeWhile_append stops, dropWhile_append stops]
  dsimp only at reads ⊢
  generalize (bytes.takeWhile isDigitByte).length = passed at reads ⊢
  generalize bytes.dropWhile isDigitByte = left at reads ⊢
  split at reads
  next behind => exact readFraction_append ends reads
  next noPoint =>
    split
    next behind same =>
      cases left with
      | nil => exact absurd same (ends.ne_point behind)
      | cons b others =>
        obtain ⟨rfl, -⟩ := List.cons.inj same
        exact absurd rfl (noPoint others)
    next => exact readScaled_append ends reads

/-- What is read of a number does not change with what follows it. -/
theorem readNumber_append (ends : Ends after)
    (reads : readNumber positive bytes = .ok (number, rest)) :
    readNumber positive (bytes ++ after) = .ok (number, rest ++ after) := by
  have stops := ends.startsWithDigit
  unfold readNumber at reads
  split at reads
  · cases reads
  next behind =>
    rw [List.cons_append, readNumber.eq_2, startsWithDigit_append stops]
    split at reads
    · cases reads
    next single =>
      rw [if_neg single]
      exact readAfterInteger_append ends reads
  next b others notZero =>
    rw [List.cons_append, readNumber.eq_3 _ _ _ notZero]
    split at reads
    · cases reads
    next isDigit =>
      rw [if_neg isDigit, ← List.cons_append]
      simp only [readDigits_append stops, startsWithDigit_append stops] at reads ⊢
      split at reads
      next goesOn =>
        rw [if_pos goesOn]
        exact readLongInteger_append ends reads
      next ended =>
        rw [if_neg ended]
        exact readAfterInteger_append ends reads

/-- A literal that is read by itself is read wherever it may end. -/
theorem Literal.IsRead.readable {literal : Literal} (isRead : literal.IsRead) :
    literal.Readable := by
  obtain ⟨number, alone⟩ := isRead
  exact fun rest ends => ⟨number, readNumber_append ends alone⟩

/-! ## Integers -/

/-- What is finished with an exponent is no integer. -/
theorem float_of_finishFloat
    (reads : finishFloat positive digits exponent bytes = .ok (number, rest)) :
    ∃ x, number = .float x := by
  unfold finishFloat at reads
  split at reads
  next value found =>
    cases reads
    exact ⟨_, rfl⟩
  next => cases reads

/-- A number with an exponent is no integer. -/
theorem float_of_readExponent
    (reads : readExponent positive digits exponent bytes = .ok (number, rest)) :
    ∃ x, number = .float x := by
  obtain ⟨sign, digit, behind, rfl⟩ := exists_signed reads
  rw [readExponent_signed] at reads
  split at reads
  · split at reads
    · cases reads
    · cases reads
      exact ⟨_, rfl⟩
  · exact float_of_finishFloat reads

/-- Nor is one with digits that do not count. -/
theorem float_of_readScaled
    (reads : readScaled positive digits exponent bytes = .ok (number, rest)) :
    ∃ x, number = .float x := by
  unfold readScaled at reads
  split at reads
  · exact float_of_readExponent reads
  · exact float_of_finishFloat reads

/-- Nor is one with a fraction. -/
theorem float_of_readFraction
    (reads : readFraction positive digits exponent bytes = .ok (number, rest)) :
    ∃ x, number = .float x := by
  simp only [readFraction] at reads
  split at reads
  · exact float_of_readScaled reads
  split at reads
  · split at reads <;> cases reads
  · exact float_of_readScaled reads

/-- Nor is one of more than 64 bits. -/
theorem float_of_readLongInteger
    (reads : readLongInteger positive digits bytes = .ok (number, rest)) :
    ∃ x, number = .float x := by
  unfold readLongInteger at reads
  dsimp only at reads
  split at reads
  · exact float_of_readFraction reads
  · exact float_of_readScaled reads

/-- An integer is read off its digits, and is not a negative zero. -/
theorem integer_of_readAfterInteger {n : ℤ}
    (reads : readAfterInteger positive digits bytes = .ok (.integer n, rest)) :
    rest = bytes ∧ n = (if positive then (digits : ℤ) else -digits) ∧
      (positive = false → digits ≠ 0) := by
  unfold readAfterInteger at reads
  split at reads
  next =>
    obtain ⟨x, same⟩ := float_of_readFraction reads
    cases same
  next =>
    split at reads
    next =>
      obtain ⟨x, same⟩ := float_of_readExponent reads
      cases same
    next =>
      obtain ⟨rfl, -⟩ := wholeNumber_eq_ok reads
      refine ⟨rfl, ?_⟩
      unfold wholeNumber at reads
      split at reads
      next isPositive =>
        cases reads
        simp [isPositive]
      next isNegative =>
        split at reads
        next fits =>
          cases reads
          simp at fits
          simp [isNegative, fits.1]
        next =>
          obtain ⟨x, same⟩ := float_of_finishFloat reads
          cases same

/-- An integer that is read is spelled by digits alone. -/
theorem integer_of_readNumber {n : ℤ} (reads : readNumber positive bytes = .ok (.integer n, rest)) :
    ∃ front, bytes = spelled front ++ rest ∧
      n = (if positive then (valueFrom 0 front : ℤ) else -valueFrom 0 front) ∧
      (positive = false → valueFrom 0 front ≠ 0) := by
  unfold readNumber at reads
  split at reads
  · cases reads
  next behind =>
    split at reads
    · cases reads
    next =>
      obtain ⟨rfl, value⟩ := integer_of_readAfterInteger reads
      exact ⟨[0], rfl, value⟩
  next b others notZero =>
    split at reads
    · cases reads
    next =>
      obtain ⟨front, split, value, -, -⟩ := readDigits_spelled UInt64.size 0 0 (b :: others)
      dsimp only at reads
      split at reads
      next =>
        obtain ⟨x, same⟩ := float_of_readLongInteger reads
        cases same
      next =>
        rw [value] at reads
        obtain ⟨rfl, value⟩ := integer_of_readAfterInteger reads
        exact ⟨front, split, value⟩

/-- A literal spells an integer plainly: without point and exponent, and zero without a sign. -/
structure Literal.Plainly (literal : Literal) (n : ℤ) : Prop where
  places : literal.places = []
  scale : literal.scale = none
  signed : literal.negative = true → literal.value ≠ 0
  value : literal.value = n

/-- An integer is spelled plainly in one way. -/
theorem Literal.plainly_iff {literal : Literal} {n : ℤ} :
    literal.Plainly n ↔ literal = .ofInt n := by
  constructor
  · rintro ⟨places, scale, signed, value⟩
    have nonzero : literal.negative = true → valueFrom 0 literal.whole ≠ 0 := fun negative zero =>
      signed negative (by simp [Literal.value, places, zero])
    have written := eq_ofInt places scale nonzero
    rw [written, value_ofInt, Int.cast_inj] at value
    rw [written, value]
  · rintro rfl
    refine ⟨rfl, rfl, fun negative => ?_, value_ofInt n⟩
    have sign : n < 0 := of_decide_eq_true negative
    rw [value_ofInt, Int.cast_ne_zero]
    exact sign.ne

/-- An integer is read of its plain literal only. -/
theorem Literal.Reads.eq_ofInt {literal : Literal} {n : ℤ} (reads : literal.Reads (.integer n)) :
    literal = .ofInt n := by
  obtain ⟨front, split, value, signed⟩ := integer_of_readNumber reads
  have same : spelled literal.whole ++ (pointed literal.places ++ scaled literal.scale) =
      spelled front ++ [] := split
  obtain ⟨rfl, nothing⟩ := spelled_unique same (startsWithDigit_tail _ _) rfl
  obtain ⟨noPoint, noMark⟩ := List.append_eq_nil_iff.mp nothing
  have places : literal.places = [] := by
    cases digits : literal.places with
    | nil => rfl
    | cons digit others =>
      rw [digits] at noPoint
      cases noPoint
  have scale : literal.scale = none := by
    cases mark : literal.scale with
    | none => rfl
    | some scale =>
      rw [mark] at noMark
      cases noMark
  rw [value]
  have written := Literal.eq_ofInt places scale (by simpa using signed)
  cases sign : literal.negative <;> simpa [sign] using written

/-! ## Values -/

/-- A term of which nothing but integers comes is written as it is read. -/
theorem sent_eq_of_isRead {term : Term String} (isRead : term.Each Literal.IsRead)
    (whole : term.sent.Each Literal.IsWhole) : term.sent = term := by
  induction isRead with
  | null | bool | string => rfl
  | @number literal holds =>
    obtain ⟨number, reads⟩ := holds
    have sent := sent_of_number? reads.number?_eq
    rw [Term.sent, sent] at whole ⊢
    cases number with
    | integer n => rw [reads.eq_ofInt, Number.literal]
    | float x =>
      -- What is written for a binary64 number has a point or an exponent.
      cases whole with
      | number holds => exact absurd holds (Literal.not_isWhole_ofBinary64 x)
  | @array items _ ih =>
    rw [Term.sent, sentItems_eq_map] at whole ⊢
    cases whole with
    | array each =>
      have same : items.map Term.sent = items.map id := List.map_congr_left fun item member =>
        ih item member (each _ (List.mem_map_of_mem member))
      rw [same, List.map_id]
  | @object members _ ih =>
    rw [Term.sent, sentMembers_eq_map] at whole ⊢
    cases whole with
    | object each =>
      have same : (members.map fun member => (member.1, member.2.sent)) = members.map id :=
        List.map_congr_left fun member isMember =>
          Prod.ext rfl (ih member isMember
            (each (member.1, member.2.sent) (List.mem_map_of_mem isMember)))
      rw [same, List.map_id]

namespace Value.ReadOff

variable {value other : Value} {term : Term String}

/-- A value without other numbers than integers is read off its own term only. -/
theorem eq_term (off : value.ReadOff term) (whole : value.term.Each Literal.IsWhole) :
    term = value.term := by
  obtain ⟨same, isRead⟩ := off
  rw [same] at whole ⊢
  exact (sent_eq_of_isRead isRead whole).symm

/-- Nothing else than a value without other numbers than integers is read off its term. -/
theorem eq_of_plain (off : value.ReadOff other.term) (plain : other.term.Each Literal.IsPlain) :
    value = other :=
  (eq_of_term_eq (plain.mono fun _ isPlain => isPlain.isWhole)
    (plain.sent_eq.symm.trans off.1.symm)).symm

/-- A string is read off this string only. -/
theorem eq_string_iff (off : value.ReadOff term) (content : String) :
    value = .string content ↔ term = .string content := by
  constructor
  · rintro rfl
    exact off.eq_term (.string content)
  · rintro rfl
    have plain : (Value.string content).term.Each Literal.IsPlain := .string content
    exact eq_of_plain off plain

/-- An object is read off an object. -/
theorem exists_members {members : List (String × Term String)}
    (off : value.ReadOff (.object members)) : ∃ values, value = .object values := by
  obtain ⟨same, -⟩ := off
  cases value with
  | object values => exact ⟨values, rfl⟩
  | _ => cases same

/-- An object is read off another member by member. -/
theorem forall₂_members {values : List (String × Value)} {members : List (String × Term String)}
    (off : (Value.object values).ReadOff (.object members)) :
    List.Forall₂ (fun read member => read.1 = member.1 ∧ read.2.ReadOff member.2) values
      members := by
  obtain ⟨same, isRead⟩ := off
  cases isRead with
  | object each =>
    have terms : values.map (fun member => (member.1, member.2.term)) =
        members.map fun member => (member.1, member.2.sent) := by
      rw [← memberTerms_eq_map, ← sentMembers_eq_map]
      exact Term.object.inj same
    clear same
    induction values generalizing members with
    | nil =>
      cases List.map_eq_nil_iff.mp terms.symm
      exact .nil
    | cons read values ih =>
      cases members with
      | nil => cases terms
      | cons member members =>
        obtain ⟨first, others⟩ := List.cons.inj terms
        obtain ⟨name, content⟩ := Prod.mk.inj first
        obtain ⟨isRead, areRead⟩ := List.forall_mem_cons.mp each
        exact .cons ⟨name, content, isRead⟩ (ih areRead others)

end Value.ReadOff

end Switchboard.Json
