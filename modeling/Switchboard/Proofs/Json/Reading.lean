import Switchboard.Json.Record

/-!
# What readers leave

A reader that succeeds leaves no more bytes than it was given, whatever it reads: a number, a
string, or a value with everything inside it (`shrinks_readValue`). So the rounds that a bound
allows are never what ends a loop over items.
-/

namespace Switchboard.Json

/-- What follows a step that succeeds. -/
theorem bind_eq_ok {ε α β : Type} {first : Except ε α} {next : α → Except ε β} {result : β} :
    first >>= next = .ok result ↔ ∃ value, first = .ok value ∧ next value = .ok result := by
  cases first <;> simp [bind, Except.bind]

/-- What is made of a value that has been read. -/
theorem mapOutcome_eq_ok {α β : Type} {turn : α → β} {outcome : Outcome α} {value : β}
    {rest : Bytes} :
    mapOutcome turn outcome = .ok (value, rest) ↔
      ∃ found, outcome = .ok (found, rest) ∧ turn found = value := by
  cases outcome with
  | error failure => simp [mapOutcome, Except.map]
  | ok found =>
    obtain ⟨found, left⟩ := found
    simp only [mapOutcome, Except.map, Except.ok.injEq, Prod.mk.injEq]
    constructor
    · rintro ⟨same, rfl⟩
      exact ⟨found, ⟨rfl, rfl⟩, same⟩
    · rintro ⟨_, ⟨rfl, rfl⟩, same⟩
      exact ⟨same, rfl⟩

/-- A path does not matter where nothing fails. -/
theorem within_eq_ok {α : Type} {step : PathStep} {outcome : Except Failure α} {result : α} :
    within step outcome = .ok result ↔ outcome = .ok result := by
  cases outcome with
  | error failure => exact iff_of_false (fun reads => by cases reads) fun reads => by cases reads
  | ok value => exact Iff.rfl

/-- Nothing but blanks is left of a text that is read as a whole. -/
theorem readWhole_eq_ok {α : Type} {reader : Bytes → Outcome α} {text : Bytes} {value : α} :
    readWhole reader text = .ok value ↔
      ∃ rest, reader text = .ok (value, rest) ∧ skipBlanks rest = [] := by
  unfold readWhole
  constructor
  · intro whole
    split at whole
    · cases whole
    next found rest reads =>
      split at whole
      · cases whole
      next ends =>
        cases whole
        refine ⟨rest, reads, ?_⟩
        unfold expectEnd at ends
        split at ends
        next ended => exact ended
        next => cases ends
  · rintro ⟨rest, reads, ended⟩
    simp only [reads, expectEnd, ended]

section
variable {bound : Nat} {positive : Bool} {digits : Nat} {exponent : Int} {bytes rest : Bytes}

/-- A complaint is no value. -/
theorem wrongType_ne_ok {α : Type} {expected : String} {b : UInt8} {result : α} :
    wrongType bound expected b bytes ≠ .ok result := by
  intro succeeds
  unfold wrongType at succeeds
  split at succeeds
  · cases succeeds
  split at succeeds
  · cases succeeds
  split at succeeds <;> cases succeeds

/-! ## Blanks and digits -/

theorem length_dropWhile (p : UInt8 → Bool) (bytes : Bytes) :
    (bytes.dropWhile p).length ≤ bytes.length :=
  (List.dropWhile_sublist p).length_le

theorem length_tail (bytes : Bytes) : bytes.tail.length ≤ bytes.length :=
  (List.tail_sublist bytes).length_le

/-- Behind blanks there is no more than with them. -/
theorem length_skipBlanks (bytes : Bytes) : (skipBlanks bytes).length ≤ bytes.length :=
  length_dropWhile _ bytes

/-- Behind a token there is less than with it. -/
theorem length_lt_of_skipBlanks {b : UInt8} (skipped : skipBlanks bytes = b :: rest) :
    rest.length < bytes.length := by
  have fewer := length_skipBlanks bytes
  rwa [skipped] at fewer

/-- Digits are taken off the front, as many as there are and fit. -/
theorem length_readDigits (limit value count : Nat) (bytes : Bytes) :
    (readDigits limit value count bytes).2.2.length ≤ bytes.length := by
  fun_induction readDigits limit value count bytes with
  | case1 => exact Nat.le_refl _
  | case2 => exact Nat.le_refl _
  | case3 value count b rest digit isDigit fits ih => exact Nat.le_succ_of_le ih
  | case4 => exact Nat.le_refl _

/-! ## Numbers -/

theorem length_finishFloat {value : Number}
    (reads : finishFloat positive digits exponent bytes = .ok (value, rest)) :
    rest.length ≤ bytes.length := by
  unfold finishFloat at reads
  split at reads
  · cases reads
    exact Nat.le_refl _
  · cases reads

/-- An exponent is its sign, if any, and its digits. -/
theorem length_readExponent {value : Number}
    (reads : readExponent positive digits exponent bytes = .ok (value, rest)) :
    rest.length ≤ bytes.length := by
  unfold readExponent at reads
  dsimp only at reads
  split at reads
  · cases reads
  next b after unsigned =>
    have fewer : (b :: after).length ≤ bytes.length := by
      split at unsigned
      · obtain rfl := unsigned
        exact Nat.le_succ _
      · obtain rfl := unsigned
        exact Nat.le_succ _
      · exact Nat.le_of_eq (congrArg List.length unsigned.symm)
    have left := length_readDigits exponentLimit 0 0 (b :: after)
    split at reads
    · cases reads
    split at reads
    · -- The sign only matters to whether that is an error.
      split at reads
      all_goals
        split at reads
        · cases reads
        · cases reads
          exact Nat.le_trans (length_dropWhile _ _) (Nat.le_trans left fewer)
    · exact Nat.le_trans (length_finishFloat reads) (Nat.le_trans left fewer)

theorem length_readScaled {value : Number}
    (reads : readScaled positive digits exponent bytes = .ok (value, rest)) :
    rest.length ≤ bytes.length := by
  unfold readScaled at reads
  split at reads
  · exact Nat.le_trans (length_readExponent reads) (length_tail bytes)
  · exact length_finishFloat reads

/-- A fraction is its digits, and perhaps an exponent. -/
theorem length_readFraction {value : Number}
    (reads : readFraction positive digits exponent bytes = .ok (value, rest)) :
    rest.length ≤ bytes.length := by
  have left := length_readDigits UInt64.size digits 0 bytes
  unfold readFraction at reads
  dsimp only at reads
  split at reads
  · -- The digits are too many for 64 bits, and the others are passed over.
    have passed := Nat.le_trans (length_dropWhile isDigitByte _) left
    exact Nat.le_trans (length_readScaled reads) passed
  split at reads
  · split at reads <;> cases reads
  · exact Nat.le_trans (length_readScaled reads) left

/-- A whole number ends where its digits have ended. -/
theorem length_wholeNumber {value : Number}
    (reads : wholeNumber positive digits bytes = .ok (value, rest)) :
    rest.length ≤ bytes.length := by
  unfold wholeNumber at reads
  split at reads
  · cases reads
    exact Nat.le_refl _
  split at reads
  · cases reads
    exact Nat.le_refl _
  · exact length_finishFloat reads

theorem length_readAfterInteger {value : Number}
    (reads : readAfterInteger positive digits bytes = .ok (value, rest)) :
    rest.length ≤ bytes.length := by
  unfold readAfterInteger at reads
  split at reads
  · exact Nat.le_succ_of_le (length_readFraction reads)
  split at reads
  · exact Nat.le_trans (length_readExponent reads) (length_tail bytes)
  · exact length_wholeNumber reads

/-- Digits beyond 64 bits are passed over. -/
theorem length_readLongInteger {value : Number}
    (reads : readLongInteger positive digits bytes = .ok (value, rest)) :
    rest.length ≤ bytes.length := by
  have passed := length_dropWhile isDigitByte bytes
  unfold readLongInteger at reads
  dsimp only at reads
  split at reads
  next after behind =>
    rw [behind] at passed
    exact Nat.le_trans (length_readFraction reads) (Nat.le_of_succ_le passed)
  next => exact Nat.le_trans (length_readScaled reads) passed

/-- A number takes what its digits, its fraction and its exponent take. -/
theorem length_readNumber {value : Number}
    (reads : readNumber positive bytes = .ok (value, rest)) : rest.length ≤ bytes.length := by
  unfold readNumber at reads
  split at reads
  · cases reads
  · split at reads
    · cases reads
    · exact Nat.le_succ_of_le (length_readAfterInteger reads)
  next b after _ =>
    have left := length_readDigits UInt64.size 0 0 (b :: after)
    split at reads
    · cases reads
    dsimp only at reads
    split at reads
    · exact Nat.le_trans (length_readLongInteger reads) left
    · exact Nat.le_trans (length_readAfterInteger reads) left

/-! ## Words and strings -/

/-- A word takes its letters. -/
theorem length_readLiteral {α : Type} {literal value : α} {letters : List Char}
    (reads : readLiteral literal letters bytes = .ok (value, rest)) :
    rest.length ≤ bytes.length := by
  fun_induction readLiteral literal letters bytes with
  | case1 =>
    cases reads
    exact Nat.le_refl _
  | case2 => cases reads
  | case3 c letters b after same ih => exact Nat.le_succ_of_le (ih reads)
  | case4 => cases reads

/-- Four digits are taken, or none. -/
theorem length_readHex4 {n : Nat} (reads : readHex4 bytes = .ok (n, rest)) :
    rest.length ≤ bytes.length := by
  unfold readHex4 at reads
  split at reads
  · split at reads
    · cases reads
      simp only [List.length_cons]
      omega
    · cases reads
  · cases reads

theorem length_expectEscapeByte {b : UInt8} (passes : expectEscapeByte b bytes = .ok rest) :
    rest.length ≤ bytes.length := by
  unfold expectEscapeByte at passes
  split at passes
  · cases passes
  split at passes
  · cases passes
    exact Nat.le_succ _
  · cases passes

/-- A code point takes one or two groups of digits. -/
theorem length_readCodePoint {c : Char} (reads : readCodePoint bytes = .ok (c, rest)) :
    rest.length ≤ bytes.length := by
  obtain ⟨⟨high, afterHigh⟩, readsHigh, reads⟩ := bind_eq_ok.mp reads
  have fewer := length_readHex4 readsHigh
  dsimp only at reads
  split at reads
  · cases reads
  split at reads
  · cases reads
    exact fewer
  obtain ⟨afterSlash, slash, reads⟩ := bind_eq_ok.mp reads
  obtain ⟨afterLetter, letter, reads⟩ := bind_eq_ok.mp reads
  obtain ⟨⟨low, afterLow⟩, readsLow, reads⟩ := bind_eq_ok.mp reads
  have behindSlash := length_expectEscapeByte slash
  have behindLetter := length_expectEscapeByte letter
  have behindLow := length_readHex4 readsLow
  dsimp only at reads
  split at reads
  · cases reads
  · obtain ⟨-, rfl⟩ := Prod.mk.inj (Except.ok.inj reads)
    omega

/-- An escape takes a letter, or a letter and a code point. -/
theorem length_readEscape {c : Char} (reads : readEscape bytes = .ok (c, rest)) :
    rest.length ≤ bytes.length := by
  unfold readEscape at reads
  split at reads
  · cases reads
  split at reads
  · cases reads
    exact Nat.le_succ _
  split at reads
  · exact Nat.le_succ_of_le (length_readCodePoint reads)
  · cases reads

/-- A string ends behind its closing quote. -/
theorem length_readStringOnto {done text : Bytes}
    (reads : readStringOnto bound done bytes = .ok (text, rest)) : rest.length ≤ bytes.length := by
  fun_induction readStringOnto bound done bytes with
  | case1 => cases reads
  | case2 => cases reads
  | case3 =>
    cases reads
    exact Nat.le_succ _
  | case4 bound done b after notQuote escape ih =>
    obtain ⟨⟨c, afterEscape⟩, readsEscape, reads⟩ := bind_eq_ok.mp reads
    have behindEscape := length_readEscape readsEscape
    exact Nat.le_succ_of_le (Nat.le_trans (ih _ _ reads) behindEscape)
  | case5 => cases reads
  | case6 bound done b after notQuote notEscape printable ih =>
    exact Nat.le_succ_of_le (ih reads)

theorem length_readString {text : String} (reads : readString bound bytes = .ok (text, rest)) :
    rest.length ≤ bytes.length := by
  obtain ⟨⟨content, after⟩, readsText, reads⟩ := bind_eq_ok.mp reads
  dsimp only at reads
  split at reads
  · cases reads
    exact length_readStringOnto readsText
  · cases reads

/-! ## Items and members -/

/-- A scalar is read from its first byte on, which a number may still need. -/
theorem length_readScalar {b : UInt8} {value : Value}
    (reads : readScalar bound b bytes = .ok (value, rest)) : rest.length ≤ bytes.length + 1 := by
  unfold readScalar at reads
  split at reads
  · exact Nat.le_succ_of_le (length_readLiteral reads)
  split at reads
  · exact Nat.le_succ_of_le (length_readLiteral reads)
  split at reads
  · exact Nat.le_succ_of_le (length_readLiteral reads)
  split at reads
  · obtain ⟨number, readsNumber, -⟩ := mapOutcome_eq_ok.mp reads
    exact Nat.le_succ_of_le (length_readNumber readsNumber)
  split at reads
  · obtain ⟨number, readsNumber, -⟩ := mapOutcome_eq_ok.mp reads
    exact length_readNumber readsNumber
  split at reads
  · obtain ⟨text, readsText, -⟩ := mapOutcome_eq_ok.mp reads
    exact Nat.le_succ_of_le (length_readString readsText)
  · cases reads

/-- What stands before an item is passed. -/
theorem length_nextItem {first more : Bool} (looks : nextItem first bytes = .ok (more, rest)) :
    rest.length ≤ bytes.length := by
  unfold nextItem at looks
  split at looks
  · cases looks
  next b after skipped =>
    have solid := length_lt_of_skipBlanks skipped
    split at looks
    · cases looks
      exact solid
    split at looks
    · cases looks
      exact solid
    split at looks
    · split at looks
      · cases looks
      next c behind comma =>
        have fewer := length_lt_of_skipBlanks comma
        split at looks
        · cases looks
        · cases looks
          exact Nat.le_of_lt (Nat.lt_of_le_of_lt fewer solid)
    · cases looks

/-- An item that is not the first stands behind a comma. -/
theorem length_lt_of_nextItem (looks : nextItem false bytes = .ok (true, rest)) :
    rest.length < bytes.length := by
  unfold nextItem at looks
  split at looks
  · cases looks
  next b after skipped =>
    have solid := length_lt_of_skipBlanks skipped
    split at looks
    · cases looks
    rw [if_neg Bool.false_ne_true] at looks
    split at looks
    · split at looks
      · cases looks
      next c behind comma =>
        have fewer := length_lt_of_skipBlanks comma
        split at looks
        · cases looks
        · cases looks
          exact Nat.lt_of_le_of_lt fewer solid
    · cases looks

theorem length_endItems (passes : endItems bytes = .ok rest) : rest.length ≤ bytes.length := by
  unfold endItems at passes
  split at passes
  · cases passes
  next b after skipped =>
    split at passes
    · cases passes
      exact Nat.le_of_lt (length_lt_of_skipBlanks skipped)
    split at passes
    · split at passes <;> cases passes
    · cases passes

/-- What stands before a member is passed. -/
theorem length_nextMember {first more : Bool} (looks : nextMember first bytes = .ok (more, rest)) :
    rest.length ≤ bytes.length := by
  unfold nextMember at looks
  split at looks
  · cases looks
  next b after skipped =>
    have solid := length_lt_of_skipBlanks skipped
    split at looks
    · cases looks
      exact solid
    split at looks
    · split at looks
      · cases looks
        exact Nat.le_of_lt solid
      · cases looks
    split at looks
    · split at looks
      · cases looks
      next c behind comma =>
        have fewer := length_lt_of_skipBlanks comma
        split at looks
        · cases looks
          exact Nat.le_of_lt (Nat.lt_trans fewer solid)
        split at looks <;> cases looks
    · cases looks

theorem length_endMembers (passes : endMembers bytes = .ok rest) : rest.length ≤ bytes.length := by
  unfold endMembers at passes
  split at passes
  · cases passes
  next b after skipped =>
    split at passes
    · cases passes
      exact Nat.le_of_lt (length_lt_of_skipBlanks skipped)
    split at passes <;> cases passes

theorem length_expectColon (passes : expectColon bytes = .ok rest) :
    rest.length ≤ bytes.length := by
  unfold expectColon at passes
  split at passes
  · cases passes
  next b after skipped =>
    split at passes
    · cases passes
      exact Nat.le_of_lt (length_lt_of_skipBlanks skipped)
    · cases passes

/-- A name is passed with all that stands before it. -/
theorem length_readName {first : Bool} {name? : Option String}
    (reads : readName (readString bound) first bytes = .ok (name?, rest)) :
    rest.length ≤ bytes.length := by
  obtain ⟨⟨more, after⟩, looks, reads⟩ := bind_eq_ok.mp (within_eq_ok.mp reads)
  have fewer := length_nextMember looks
  dsimp only at reads
  split at reads
  · obtain ⟨⟨name, left⟩, readsName, reads⟩ := bind_eq_ok.mp reads
    cases reads
    exact Nat.le_trans (length_readString readsName) fewer
  · cases reads
    exact fewer

/-- A reader that leaves no more than it was given. -/
def Shrinks {α : Type} (reader : Bytes → Outcome α) : Prop :=
  ∀ {bytes value rest}, reader bytes = .ok (value, rest) → rest.length ≤ bytes.length

/-- Items leave no more than they were given if each of them leaves no more. -/
theorem length_readItems {α : Type} {item : Bytes → Outcome α} (shrinks : Shrinks item)
    {done items : List α} (reads : readItems item bound done bytes = .ok (items, rest)) :
    rest.length ≤ bytes.length := by
  induction bound generalizing done bytes with
  | zero => cases reads
  | succ bound ih =>
    obtain ⟨⟨more, after⟩, looks, reads⟩ := bind_eq_ok.mp reads
    have fewer := length_nextItem looks
    dsimp only at reads
    split at reads
    · obtain ⟨⟨value, left⟩, readsItem, reads⟩ := bind_eq_ok.mp reads
      have := shrinks (within_eq_ok.mp readsItem)
      exact Nat.le_trans (ih reads) (Nat.le_trans this fewer)
    · obtain ⟨left, ends, reads⟩ := bind_eq_ok.mp reads
      cases reads
      exact Nat.le_trans (length_endItems ends) fewer

/-- So do members if their values do. -/
theorem length_readMembers {α : Type} {reader : Bytes → Outcome α} (shrinks : Shrinks reader)
    {rounds : Nat} {done members : List (String × α)}
    (reads : readMembers (readString bound) reader rounds done bytes = .ok (members, rest)) :
    rest.length ≤ bytes.length := by
  induction rounds generalizing done bytes with
  | zero => cases reads
  | succ rounds ih =>
    obtain ⟨⟨name?, after⟩, readsName, reads⟩ := bind_eq_ok.mp reads
    have fewer := length_readName readsName
    cases name? with
    | some name =>
      obtain ⟨behindColon, colon, reads⟩ := bind_eq_ok.mp reads
      obtain ⟨⟨member, left⟩, readsValue, reads⟩ := bind_eq_ok.mp reads
      have inner := Nat.le_trans (shrinks (within_eq_ok.mp readsValue)) (length_expectColon colon)
      exact Nat.le_trans (ih reads) (Nat.le_trans inner fewer)
    | none =>
      obtain ⟨left, ends, reads⟩ := bind_eq_ok.mp reads
      cases reads
      exact Nat.le_trans (length_endMembers ends) fewer

/-- A value leaves no more than it was given, however deep it nests. -/
theorem shrinks_readValue (bound depth : Nat) : Shrinks (readValue bound depth) := by
  induction depth with
  | zero =>
    intro bytes value rest reads
    unfold readValue at reads
    split at reads
    · cases reads
    next b after skipped =>
      split at reads
      · cases reads
      · exact Nat.le_trans (length_readScalar reads) (length_lt_of_skipBlanks skipped)
  | succ depth ih =>
    intro bytes value rest reads
    unfold readValue at reads
    split at reads
    · cases reads
    next b after skipped =>
      have fewer := length_lt_of_skipBlanks skipped
      split at reads
      · obtain ⟨items, readsItems, -⟩ := mapOutcome_eq_ok.mp reads
        have := length_readItems ih readsItems
        omega
      split at reads
      · obtain ⟨members, readsMembers, -⟩ := mapOutcome_eq_ok.mp reads
        have := length_readMembers ih readsMembers
        omega
      · exact Nat.le_trans (length_readScalar reads) fewer

end

end Switchboard.Json
