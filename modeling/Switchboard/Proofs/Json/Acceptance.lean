import Switchboard.Proofs.Json.Unique

/-!
# What is spelled is read

Where bytes spell a term, the reader takes exactly the bytes that do, if the term is not nested
deeper than it goes and it can read the numbers in it (`exists_readValue`); a string is read as the
text that it spells (`readString_of_isText`). Numbers that are integers of 64 bits can be read
(`Literal.IsWhole.readable`). The rounds that the reader may go through are enough, since each takes
a byte.
-/

namespace Switchboard.Json

open Text (encode)

variable {bytes rest : Bytes} {bound : Nat}

/-! ## Strings -/

/-- Four hexadecimal digits are read. -/
theorem readHex4_of_hex4 {n : Nat} (hex : Hex4 bytes n rest) : readHex4 bytes = .ok (n, rest) := by
  cases hex with
  | digits first second third fourth => simp only [readHex4, first, second, third, fourth]

/-- A code point of the basic plane is read. -/
theorem readCodePoint_of_single {n : Nat} (hex : Hex4 bytes n rest)
    (single : n < 0xd800 ∨ 0xdfff < n) : readCodePoint bytes = .ok (.ofNat n, rest) := by
  refine bind_eq_ok.mpr ⟨(n, rest), readHex4_of_hex4 hex, ?_⟩
  have notLow : ¬ (decide (0xdc00 ≤ n) && decide (n ≤ 0xdfff)) = true := by
    simp only [Bool.and_eq_true, decide_eq_true_eq]
    omega
  have alone : (decide (n < 0xd800) || decide (0xdbff < n)) = true := by
    simp only [Bool.or_eq_true, decide_eq_true_eq]
    omega
  dsimp only
  rw [if_neg notLow, if_pos alone]

/-- A surrogate pair is read as one character. -/
theorem readCodePoint_of_pair {middle : Bytes} {high low : Nat}
    (first : Hex4 bytes high (0x5c :: 0x75 :: middle)) (isHigh : 0xd800 ≤ high ∧ high ≤ 0xdbff)
    (second : Hex4 middle low rest) (isLow : 0xdc00 ≤ low ∧ low ≤ 0xdfff) :
    readCodePoint bytes =
      .ok (.ofNat ((high - 0xd800) * 0x400 + (low - 0xdc00) + 0x10000), rest) := by
  refine bind_eq_ok.mpr ⟨(high, _), readHex4_of_hex4 first, ?_⟩
  have notLow : ¬ (decide (0xdc00 ≤ high) && decide (high ≤ 0xdfff)) = true := by
    simp only [Bool.and_eq_true, decide_eq_true_eq]
    omega
  have paired : ¬ (decide (high < 0xd800) || decide (0xdbff < high)) = true := by
    simp only [Bool.or_eq_true, decide_eq_true_eq]
    omega
  have fits : ¬ (decide (low < 0xdc00) || decide (0xdfff < low)) = true := by
    simp only [Bool.or_eq_true, decide_eq_true_eq]
    omega
  dsimp only
  rw [if_neg notLow, if_neg paired]
  refine bind_eq_ok.mpr ⟨0x75 :: middle, rfl, bind_eq_ok.mpr ⟨middle, rfl, ?_⟩⟩
  refine bind_eq_ok.mpr ⟨(low, rest), readHex4_of_hex4 second, ?_⟩
  dsimp only
  rw [if_neg fits]

/-- An escape is read as its character. -/
theorem readEscape_of_escape {c : Char} (escape : Escape bytes c rest) :
    readEscape bytes = .ok (c, rest) := by
  cases escape with
  | letter means => simp only [readEscape, means]
  | point hex single => exact readCodePoint_of_single hex single
  | pair first isHigh second isLow => exact readCodePoint_of_pair first isHigh second isLow

/-- A string is read to its end if the bound allows as many rounds. -/
theorem readStringOnto_of_quoted {content : Bytes} (quoted : Quoted bytes content rest)
    (enough : bytes.length < bound) (done : Bytes) :
    readStringOnto bound done bytes = .ok (done.reverse ++ content, rest) := by
  induction quoted generalizing bound done with
  | close =>
    obtain ⟨bound, rfl⟩ := Nat.exists_eq_add_one_of_ne_zero (Nat.ne_zero_of_lt enough)
    rw [List.append_nil]
    rfl
  | @plain b bytes content rest isPlain tail ih =>
    obtain ⟨bound, rfl⟩ := Nat.exists_eq_add_one_of_ne_zero (Nat.ne_zero_of_lt enough)
    obtain ⟨notQuote, notSlash, printable⟩ := isPlain
    have noControl : ¬ b < 0x20 := UInt8.not_lt.mpr printable
    rw [readStringOnto, if_neg (by simpa using notQuote), if_neg (by simpa using notSlash),
      if_neg noControl, ih (Nat.lt_of_succ_lt_succ enough)]
    simp
  | @escape bytes after content rest c means tail ih =>
    obtain ⟨bound, rfl⟩ := Nat.exists_eq_add_one_of_ne_zero (Nat.ne_zero_of_lt enough)
    have reads := readEscape_of_escape means
    have fewer := length_readEscape reads
    rw [readStringOnto, if_neg (by decide), if_pos (beq_self_eq_true _)]
    refine bind_eq_ok.mpr ⟨(c, after), reads, ?_⟩
    dsimp only
    rw [ih (Nat.lt_of_le_of_lt fewer (Nat.lt_of_succ_lt_succ enough))]
    simp

/-- A string is read as the text that it spells. -/
theorem readString_of_isText {text : String} (isText : IsText bytes text rest)
    (enough : bytes.length < bound) : readString bound bytes = .ok (text, rest) := by
  refine bind_eq_ok.mpr ⟨(encode text.toList, rest), readStringOnto_of_quoted isText enough [], ?_⟩
  have decodes : String.fromUTF8? (encode text.toList).toByteArray = some text :=
    Text.fromUTF8?_eq_some_iff.mpr rfl
  dsimp only
  rw [decodes]

/-! ## Numbers -/

/-- Digits behind which a number ends are a whole number. -/
theorem readAfterInteger_of_ends {positive : Bool} {digits : Nat} (ends : Ends rest) :
    readAfterInteger positive digits rest = wholeNumber positive digits rest := by
  cases rest with
  | nil => rfl
  | cons b others =>
    have apart : isDigitByte b = false ∧ ¬b = 0x2e ∧ ¬b = 0x65 ∧ ¬b = 0x45 := by
      simpa [Ends, continuesNumber, and_assoc] using ends
    have unmarked : startsWithExponent (b :: others) = false := by
      simp [startsWithExponent, apart.2.2]
    rw [readAfterInteger.eq_2, unmarked]
    · rfl
    · intro _ same
      exact apart.2.1 (List.cons.inj same).1

/-- An integer is read as such where it ends. -/
theorem readNumber_of_ends {positive : Bool} {literal : Literal} (places : literal.places = [])
    (scale : literal.scale = none) (fits : valueFrom 0 literal.whole < UInt64.size)
    (ends : Ends rest) :
    readNumber positive (literal.magnitude ++ rest) =
      wholeNumber positive (valueFrom 0 literal.whole) rest :=
  readNumber_append_of_whole places scale fits ends.startsWithDigit (readAfterInteger_of_ends ends)

/-- A literal can be read wherever a number may end behind it. -/
def Literal.Readable (literal : Literal) : Prop :=
  ∀ rest, Ends rest → ∃ number,
    readNumber (!literal.negative) (literal.magnitude ++ rest) = .ok (number, rest)

/-- An integer of 64 bits can be read. -/
theorem Literal.IsWhole.readable {literal : Literal} (isWhole : literal.IsWhole) :
    literal.Readable := by
  obtain ⟨places, scale, lower, upper⟩ := isWhole
  have value : literal.value =
      (if literal.negative then -1 else 1) * (valueFrom 0 literal.whole : ℚ) := by
    simp [Literal.value, places, scale]
  rw [value] at lower upper
  intro rest ends
  cases sign : literal.negative with
  | false =>
    simp only [sign, Bool.false_eq_true, ↓reduceIte, one_mul] at upper
    have fits : valueFrom 0 literal.whole < UInt64.size := by exact_mod_cast upper
    rw [readNumber_of_ends places scale fits ends]
    exact ⟨_, rfl⟩
  | true =>
    simp only [sign, ↓reduceIte, neg_mul, one_mul] at lower
    have fits : valueFrom 0 literal.whole ≤ 2 ^ 63 := by exact_mod_cast neg_le_neg_iff.mp lower
    rw [readNumber_of_ends places scale (Nat.lt_of_le_of_lt fits (by decide)) ends]
    by_cases zero : valueFrom 0 literal.whole = 0
    · have scaled : (Decimal.Binary64.ofNat? 0).bind (fun value => scaleDecimal? 8 value 0) =
          some (.zero false) := by decide
      simp [zero, wholeNumber, finishFloat, scaled]
    · have small : valueFrom 0 literal.whole ≤ Decimal.int64Bound := fits
      simp [wholeNumber, zero, small]

/-! ## Items and members -/

/-- How deep arrays and objects nest in a term, at most. -/
inductive Term.Nests {σ : Type} : (depth : Nat) → Term σ → Prop where
  | null {depth : Nat} : Term.Nests depth .null
  | bool {depth : Nat} (value : Bool) : Term.Nests depth (.bool value)
  | number {depth : Nat} (literal : Literal) : Term.Nests depth (.number literal)
  | string {depth : Nat} (content : σ) : Term.Nests depth (.string content)
  | array {depth : Nat} {items : List (Term σ)} (each : ∀ item ∈ items, Term.Nests depth item) :
      Term.Nests (depth + 1) (.array items)
  | object {depth : Nat} {members : List (σ × Term σ)}
      (each : ∀ member ∈ members, Term.Nests depth member.2) :
      Term.Nests (depth + 1) (.object members)

/-- What nests no deeper than some depth nests no deeper than a greater one. -/
theorem Term.Nests.mono {σ : Type} {depth deeper : Nat} {term : Term σ} (nests : term.Nests depth)
    (le : depth ≤ deeper) : term.Nests deeper := by
  induction nests generalizing deeper with
  | null => exact .null
  | bool value => exact .bool value
  | number literal => exact .number literal
  | string content => exact .string content
  | array _ ih =>
    obtain ⟨deeper, rfl⟩ := Nat.exists_eq_add_of_le' (Nat.le_trans (Nat.le_add_left 1 _) le)
    exact .array fun item member => ih item member (Nat.le_of_succ_le_succ le)
  | object _ ih =>
    obtain ⟨deeper, rfl⟩ := Nat.exists_eq_add_of_le' (Nat.le_trans (Nat.le_add_left 1 _) le)
    exact .object fun member isMember => ih member isMember (Nat.le_of_succ_le_succ le)

/-- What is written for a term nests as deep as what has been read. -/
theorem nests_of_sent {depth : Nat} {term : Term String} (nests : term.sent.Nests depth) :
    term.Nests depth := by
  induction term using Term.induction generalizing depth with
  | null | bool | string => exact nests
  | number literal => exact .number literal
  | array items ih =>
    rw [Term.sent, sentItems_eq_map] at nests
    cases nests with
    | array each =>
      exact .array fun item member => ih item member (each _ (List.mem_map_of_mem member))
  | object members ih =>
    rw [Term.sent, sentMembers_eq_map] at nests
    cases nests with
    | object each =>
      refine .object fun member isMember => ih member isMember ?_
      exact each (member.1, member.2.sent) (List.mem_map_of_mem isMember)

/-- A reader takes what spells a term from the front of bytes of which there are not too many. -/
def Takes {α : Type} (reader : Bytes → Outcome α) (bound : Nat) (term : Term String) : Prop :=
  ∀ {bytes rest : Bytes}, Spells IsText bytes term rest → Ends rest → bytes.length < bound →
    ∃ value, reader bytes = .ok (value, rest)

/-- Behind the next byte there is less. -/
theorem Next.length_lt {b : UInt8} (next : Next bytes b rest) : rest.length < bytes.length := by
  have skipped : skipBlanks bytes = b :: rest := next
  have fewer := length_skipBlanks bytes
  rwa [skipped] at fewer

/-- The end of an array is seen. -/
theorem nextItem_of_close {first : Bool} (close : Next bytes 0x5d rest) :
    nextItem first bytes = .ok (false, 0x5d :: rest) := by
  rw [nextItem, close]
  rfl

/-- An item is seen behind what stands before it. -/
theorem nextItem_of_between {first : Bool} {behind after : Bytes} {b : UInt8}
    (between : Between first bytes behind) (next : Next behind b after) (opens : b ≠ 0x5d) :
    nextItem first bytes = .ok (true, b :: after) := by
  have found : skipBlanks behind = b :: after := next
  cases first with
  | true =>
    obtain rfl : behind = bytes := between
    rw [nextItem, found]
    simp [opens]
  | false =>
    have comma : skipBlanks bytes = 0x2c :: behind := between
    rw [nextItem, comma]
    simp [found, opens]

/-- The byte with which a term begins tells what it is, and closes no array. -/
theorem Spells.exists_next {term : Term String} (spells : Spells IsText bytes term rest) :
    ∃ b after, Next bytes b after ∧ shapeOf? b = some term.shape ∧ b ≠ 0x5d := by
  have shape := spells.shape
  cases skipped : skipBlanks bytes with
  | nil =>
    rw [skipped] at shape
    cases shape
  | cons b after =>
    rw [skipped] at shape
    refine ⟨b, after, skipped, shape, ?_⟩
    rintro rfl
    exact spells.not_close after skipped

/-- What stands between a comma and an item is shorter than what stood before the comma. -/
theorem length_of_between {first : Bool} {behind : Bytes} (between : Between first bytes behind) :
    behind.length + (if first then 0 else 1) ≤ bytes.length := by
  cases first with
  | true =>
    obtain rfl : behind = bytes := between
    exact Nat.le_refl _
  | false =>
    exact Next.length_lt between

/-- The items of an array are all read. There are enough rounds, since each item but the first
comes with a comma. -/
theorem exists_readItems {α : Type} {reader : Bytes → Outcome α} (shrinks : Shrinks reader)
    {terms : List (Term String)} (takes : ∀ term ∈ terms, Takes reader bound term) {first : Bool}
    (items : Items (Spells IsText) first bytes terms rest) (short : bytes.length < bound)
    {rounds : Nat} (enough : bytes.length + (if first then 1 else 0) < rounds) (done : List α)
    (begun : done.isEmpty = first) :
    ∃ values, readItems reader rounds done bytes = .ok (values, rest) := by
  induction items generalizing rounds done with
  | @done first bytes rest close =>
    obtain ⟨rounds, rfl⟩ := Nat.exists_eq_add_one_of_ne_zero (Nat.ne_zero_of_lt enough)
    refine ⟨done.reverse, bind_eq_ok.mpr ⟨(false, 0x5d :: rest), nextItem_of_close close, ?_⟩⟩
    exact bind_eq_ok.mpr ⟨rest, rfl, rfl⟩
  | @next first bytes behind after rest term terms between head tail ih =>
    obtain ⟨rounds, rfl⟩ := Nat.exists_eq_add_one_of_ne_zero (Nat.ne_zero_of_lt enough)
    obtain ⟨b, others, next, -, opens⟩ := head.exists_next
    have fewer := length_of_between between
    have skipped : skipBlanks behind = b :: others := next
    have fewerStill : (b :: others).length ≤ behind.length := skipped ▸ length_skipBlanks behind
    have begins : Spells IsText (b :: others) term after :=
      head.congr_skipBlanks (by rw [← skipped, skipBlanks_skipBlanks])
    obtain ⟨value, reads⟩ := takes term List.mem_cons_self begins tail.ends (by omega)
    have left := shrinks reads
    have room : after.length + 0 < rounds := by
      cases first <;> simp only [Bool.false_eq_true, ↓reduceIte] at fewer enough <;> omega
    obtain ⟨values, readsOthers⟩ := ih
      (fun other member => takes other (List.mem_cons_of_mem _ member)) (by omega) room
      (value :: done) rfl
    refine ⟨values, bind_eq_ok.mpr ⟨(true, b :: others), ?_, ?_⟩⟩
    · rw [begun]
      exact nextItem_of_between between next opens
    · exact bind_eq_ok.mpr ⟨(value, after), within_eq_ok.mpr reads, readsOthers⟩

/-- The end of an object is seen. -/
theorem nextMember_of_close {first : Bool} (close : Next bytes 0x7d rest) :
    nextMember first bytes = .ok (false, 0x7d :: rest) := by
  rw [nextMember, close]
  rfl

/-- A member is seen behind what stands before it. -/
theorem nextMember_of_between {first : Bool} {behind opened : Bytes}
    (between : Between first bytes behind) (quote : Next behind 0x22 opened) :
    nextMember first bytes = .ok (true, opened) := by
  have found : skipBlanks behind = 0x22 :: opened := quote
  cases first with
  | true =>
    obtain rfl : behind = bytes := between
    rw [nextMember, found]
    rfl
  | false =>
    have comma : skipBlanks bytes = 0x2c :: behind := between
    rw [nextMember, comma]
    simp [found]

/-- A colon is passed. -/
theorem expectColon_of_next (colon : Next bytes 0x3a rest) : expectColon bytes = .ok rest := by
  rw [expectColon, colon]
  rfl

/-- The name of a member is read. -/
theorem readName_of_between {first : Bool} {behind opened : Bytes} {name : String}
    (between : Between first bytes behind) (quote : Next behind 0x22 opened)
    (isText : IsText opened name rest) (short : opened.length < bound) :
    readName (readString bound) first bytes = .ok (some name, rest) := by
  refine within_eq_ok.mpr (bind_eq_ok.mpr ⟨(true, opened), nextMember_of_between between quote, ?_⟩)
  exact bind_eq_ok.mpr ⟨(name, rest), readString_of_isText isText short, rfl⟩

/-- At the end of an object there is no name. -/
theorem readName_of_close {first : Bool} (close : Next bytes 0x7d rest) :
    readName (readString bound) first bytes = .ok (none, 0x7d :: rest) :=
  within_eq_ok.mpr (bind_eq_ok.mpr ⟨(false, 0x7d :: rest), nextMember_of_close close, rfl⟩)

/-- The members of an object are all read. -/
theorem exists_readMembers {α : Type} {reader : Bytes → Outcome α} (shrinks : Shrinks reader)
    {terms : List (String × Term String)}
    (takes : ∀ member ∈ terms, Takes reader bound member.2) {first : Bool}
    (members : Members IsText (Spells IsText) first bytes terms rest)
    (short : bytes.length < bound) {rounds : Nat}
    (enough : bytes.length + (if first then 1 else 0) < rounds) (done : List (String × α))
    (begun : done.isEmpty = first) :
    ∃ values, readMembers (readString bound) reader rounds done bytes = .ok (values, rest) := by
  induction members generalizing rounds done with
  | @done first bytes rest close =>
    obtain ⟨rounds, rfl⟩ := Nat.exists_eq_add_one_of_ne_zero (Nat.ne_zero_of_lt enough)
    refine ⟨done.reverse, bind_eq_ok.mpr ⟨(none, 0x7d :: rest), readName_of_close close, ?_⟩⟩
    exact bind_eq_ok.mpr ⟨rest, rfl, rfl⟩
  | @next first bytes behind opened named valued after rest name term terms between quote
      spellsName colon head tail ih =>
    obtain ⟨rounds, rfl⟩ := Nat.exists_eq_add_one_of_ne_zero (Nat.ne_zero_of_lt enough)
    have fewer := length_of_between between
    have behindQuote := quote.length_lt
    have readsName := readString_of_isText spellsName (show opened.length < bound by omega)
    have behindName := length_readString readsName
    have behindColon := length_expectColon (expectColon_of_next colon)
    obtain ⟨value, reads⟩ := takes (name, term) List.mem_cons_self head tail.ends (by omega)
    have left := shrinks reads
    have room : after.length + 0 < rounds := by
      cases first <;> simp only [Bool.false_eq_true, ↓reduceIte] at fewer enough <;> omega
    obtain ⟨values, readsOthers⟩ := ih
      (fun other member => takes other (List.mem_cons_of_mem _ member)) (by omega) room
      ((name, value) :: done) rfl
    refine ⟨values, bind_eq_ok.mpr ⟨(some name, named), ?_, ?_⟩⟩
    · rw [begun]
      exact readName_of_between between quote spellsName (by omega)
    · refine bind_eq_ok.mpr ⟨valued, expectColon_of_next colon, ?_⟩
      exact bind_eq_ok.mpr ⟨(value, after), within_eq_ok.mpr reads, readsOthers⟩

/-! ## Values -/

/-- The letters of a word are read. -/
theorem readLiteral_encode {α : Type} (value : α) {letters : List Char}
    (small : ∀ c ∈ letters, c.toNat < 128) :
    readLiteral value letters (encode letters ++ rest) = .ok (value, rest) := by
  induction letters with
  | nil => rfl
  | cons c others ih =>
    obtain ⟨ascii, later⟩ := List.forall_mem_cons.mp small
    have same : ((UInt8.ofNat c.toNat).toNat == c.toNat) = true := by
      rw [UInt8.toNat_ofNat_of_lt' (Nat.lt_trans ascii (by decide))]
      exact beq_self_eq_true _
    rw [encode_cons_of_lt ascii, List.cons_append, readLiteral, if_pos same]
    exact ih later

/-- A value that is neither an array nor an object, at any depth. -/
theorem readValue_of_scalar {depth : Nat} {b : UInt8} {after : Bytes} (next : Next bytes b after)
    (noArray : b ≠ 0x5b) (noObject : b ≠ 0x7b) :
    readValue bound depth bytes = readScalar bound b after := by
  have skipped : skipBlanks bytes = b :: after := next
  cases depth <;> simp [readValue, skipped, noArray, noObject]

/-- A digit begins a number that is read with it. -/
theorem readScalar_digitByte (digit : Digit) (after : Bytes) :
    readScalar bound (digitByte digit) after =
      mapOutcome Number.toValue (readNumber true (digitByte digit :: after)) := by
  have apart : digitByte digit ≠ 0x6e ∧ digitByte digit ≠ 0x74 ∧ digitByte digit ≠ 0x66 ∧
      digitByte digit ≠ 0x2d := by
    revert digit
    decide
  simp [readScalar, apart]

/-- A number is read, behind its sign if it has one. -/
theorem exists_readScalar_of_number {literal : Literal} (readable : literal.Readable)
    (ends : Ends rest) {b : UInt8} {after : Bytes} (text : literal.text ++ rest = b :: after) :
    ∃ value, readScalar bound b after = .ok (value, rest) := by
  obtain ⟨number, reads⟩ := readable rest ends
  refine ⟨number.toValue, ?_⟩
  cases sign : literal.negative with
  | true =>
    rw [Literal.text, if_pos sign] at text
    obtain ⟨rfl, rfl⟩ := List.cons.inj text
    rw [sign] at reads
    exact mapOutcome_eq_ok.mpr ⟨number, reads, rfl⟩
  | false =>
    rw [Literal.text, sign, if_neg Bool.false_ne_true] at text
    obtain ⟨digit, others, whole⟩ := List.exists_cons_of_ne_nil literal.ne_nil
    have starts := text
    rw [Literal.magnitude, whole] at starts
    obtain ⟨rfl, -⟩ := List.cons.inj starts
    rw [readScalar_digitByte, ← text]
    rw [sign] at reads
    exact mapOutcome_eq_ok.mpr ⟨number, reads, rfl⟩

/-- What spells a term is read, as deep as the term goes. -/
theorem takes_readValue {term : Term String} (readable : term.Each Literal.Readable) {depth : Nat}
    (nests : term.Nests depth) : Takes (readValue bound depth) bound term := by
  induction term using Term.induction generalizing depth with
  | null =>
    intro bytes rest spells ends short
    cases spells with
    | null word =>
      rw [readValue_of_scalar word (by decide) (by decide)]
      exact ⟨.null, readLiteral_encode _ (by simp)⟩
  | bool value =>
    intro bytes rest spells ends short
    cases spells with
    | true word =>
      rw [readValue_of_scalar word (by decide) (by decide)]
      exact ⟨.bool true, readLiteral_encode _ (by simp)⟩
    | false word =>
      rw [readValue_of_scalar word (by decide) (by decide)]
      exact ⟨.bool false, readLiteral_encode _ (by simp)⟩
  | number literal =>
    intro bytes rest spells ends short
    obtain ⟨b, after, next, shape, -⟩ := spells.exists_next
    cases readable with
    | number holds =>
      cases spells with
      | number digits =>
        rw [readValue_of_scalar next]
        · exact exists_readScalar_of_number holds ends (digits.symm.trans next)
        · rintro rfl
          cases shape
        · rintro rfl
          cases shape
  | string content =>
    intro bytes rest spells ends short
    cases spells with
    | @string _ opened _ _ quote inside =>
      have behindQuote := quote.length_lt
      rw [readValue_of_scalar quote (by decide) (by decide)]
      have reads := readString_of_isText inside (show opened.length < bound by omega)
      exact ⟨.string content, mapOutcome_eq_ok.mpr ⟨content, reads, rfl⟩⟩
  | array items ih =>
    intro bytes rest spells ends short
    cases readable with
    | array readables =>
    cases nests with
    | @array depth _ nested =>
    cases spells with
    | @array _ opened _ _ bracket inside =>
      have skipped : skipBlanks bytes = 0x5b :: opened := bracket
      have behindBracket := bracket.length_lt
      obtain ⟨values, reads⟩ := exists_readItems (shrinks_readValue bound depth)
        (fun item member => ih item member (readables item member) (nested item member)) inside
        (by omega) (show opened.length + 1 < bound by omega) [] rfl
      refine ⟨.array values, ?_⟩
      rw [readValue, skipped]
      exact mapOutcome_eq_ok.mpr ⟨values, reads, rfl⟩
  | object members ih =>
    intro bytes rest spells ends short
    cases readable with
    | object readables =>
    cases nests with
    | @object depth _ nested =>
    cases spells with
    | @object _ opened _ _ brace inside =>
      have skipped : skipBlanks bytes = 0x7b :: opened := brace
      have behindBrace := brace.length_lt
      obtain ⟨values, reads⟩ := exists_readMembers (shrinks_readValue bound depth)
        (fun member isMember => ih member isMember (readables member isMember)
          (nested member isMember)) inside (by omega)
        (show opened.length + 1 < bound by omega) [] rfl
      refine ⟨.object values, ?_⟩
      rw [readValue, skipped]
      exact mapOutcome_eq_ok.mpr ⟨values, reads, rfl⟩

/-- Nothing else is read than what is spelled. -/
theorem term_of_readValue {depth : Nat} {value : Value} {term : Term String} {left : Bytes}
    (reads : readValue bound depth bytes = .ok (value, left))
    (spells : Spells IsText bytes term rest) (ends : Ends rest) (endsLeft : Ends left) :
    value.ReadOff term ∧ left = rest := by
  obtain ⟨found, isFound, same⟩ := spells_of_readValue reads
  obtain ⟨rfl, rfl⟩ := Spells.unique functional_isText term spells isFound ends endsLeft
  exact ⟨same, rfl⟩

/-- A whole text is read as the term that it spells. -/
theorem exists_parse {text : Bytes} {term : Term String} (spells : Spells IsText text term [])
    (readable : term.Each Literal.Readable) (nests : term.Nests maxDepth) :
    ∃ value, parse text = .ok value ∧ value.term = term.sent := by
  obtain ⟨value, reads⟩ := takes_readValue readable nests spells trivial
    (show text.length < boundOf text from Nat.lt_succ_self _)
  refine ⟨value, ?_, (term_of_readValue reads spells trivial trivial).1.1⟩
  rw [parse, readWhole, reads]
  rfl

/-! ## How deep a value is -/

/-- What is neither array nor object does not nest. -/
theorem nests_of_readScalar {depth : Nat} {b : UInt8} {value : Value}
    (reads : readScalar bound b bytes = .ok (value, rest)) : value.term.Nests depth := by
  have ofLiteral {literal : Value} {letters : List Char} (nests : literal.term.Nests depth)
      (small : ∀ c ∈ letters, c.toNat < 128)
      (reads : readLiteral literal letters bytes = .ok (value, rest)) : value.term.Nests depth := by
    obtain ⟨rfl, -⟩ := encode_of_readLiteral small reads
    exact nests
  have ofNumber {outcome : Outcome Number}
      (reads : mapOutcome Number.toValue outcome = .ok (value, rest)) :
      value.term.Nests depth := by
    obtain ⟨number, -, rfl⟩ := mapOutcome_eq_ok.mp reads
    cases number <;> exact .number _
  unfold readScalar at reads
  split at reads
  · exact ofLiteral .null (by simp) reads
  split at reads
  · exact ofLiteral (.bool true) (by simp) reads
  split at reads
  · exact ofLiteral (.bool false) (by simp) reads
  split at reads
  · exact ofNumber reads
  split at reads
  · exact ofNumber reads
  split at reads
  · obtain ⟨content, -, rfl⟩ := mapOutcome_eq_ok.mp reads
    exact .string content
  · cases reads

/-- Each item stands somewhere. -/
theorem Items.exists_of_mem {α : Type} {item : Bytes → α → Bytes → Prop} {first : Bool}
    {values : List α} (items : Items item first bytes values rest) {value : α}
    (member : value ∈ values) : ∃ bytes rest, item bytes value rest := by
  induction items with
  | done close => cases member
  | next between head tail ih =>
    rcases List.mem_cons.mp member with rfl | later
    · exact ⟨_, _, head⟩
    · exact ih later

/-- Each value stands somewhere. -/
theorem Members.exists_of_mem {ν α : Type} {name : Bytes → ν → Bytes → Prop}
    {value : Bytes → α → Bytes → Prop} {first : Bool} {members : List (ν × α)}
    (isMembers : Members name value first bytes members rest) {member : ν × α}
    (isMember : member ∈ members) : ∃ bytes rest, value bytes member.2 rest := by
  induction isMembers with
  | done close => cases isMember
  | next between quote spellsName colon head tail ih =>
    rcases List.mem_cons.mp isMember with rfl | later
    · exact ⟨_, _, head⟩
    · exact ih later

/-- A value is no deeper than the reader goes. -/
theorem nests_of_readValue {depth : Nat} {value : Value}
    (reads : readValue bound depth bytes = .ok (value, rest)) : value.term.Nests depth := by
  induction depth generalizing bytes value rest with
  | zero =>
    unfold readValue at reads
    split at reads
    · cases reads
    · split at reads
      · cases reads
      · exact nests_of_readScalar reads
  | succ depth ih =>
    unfold readValue at reads
    split at reads
    · cases reads
    split at reads
    next bracket =>
      obtain ⟨items, readsItems, rfl⟩ := mapOutcome_eq_ok.mp reads
      obtain ⟨items, rfl, isItems⟩ := items_of_readItems readsItems
      rw [Value.term, itemTerms_eq_map]
      refine .array (List.forall_mem_map.mpr fun item member => ?_)
      obtain ⟨_, _, readsItem⟩ := isItems.exists_of_mem member
      exact ih readsItem
    split at reads
    next brace =>
      obtain ⟨members, readsMembers, rfl⟩ := mapOutcome_eq_ok.mp reads
      obtain ⟨members, rfl, isMembers⟩ := members_of_readMembers readsMembers
      rw [Value.term, memberTerms_eq_map]
      refine .object (List.forall_mem_map.mpr fun member isMember => ?_)
      obtain ⟨_, _, readsMember⟩ := isMembers.exists_of_mem isMember
      exact ih readsMember
    next => exact nests_of_readScalar reads

end Switchboard.Json
