import Mathlib.Data.List.DropRight
import Mathlib.Data.List.Forall2
import Switchboard.Proofs.Json.Numerals

/-!
# Reading values

A value that is read is what the reader makes of the term that is spelled by the bytes consumed
(`spells_of_readValue`): the same strings, arrays and members, and for each literal the one that is
written for it.
-/

namespace Switchboard.Json

open Text (encode)

/-! ## Terms -/

section
variable {σ τ : Type}

/-- What holds of a term if it holds of its parts holds of every term. -/
theorem Term.induction {motive : Term σ → Prop} (null : motive .null)
    (bool : ∀ value, motive (.bool value)) (number : ∀ literal, motive (.number literal))
    (string : ∀ content, motive (.string content))
    (array : ∀ items : List (Term σ), (∀ item ∈ items, motive item) → motive (.array items))
    (object : ∀ members : List (σ × Term σ), (∀ member ∈ members, motive member.2) →
      motive (.object members)) : ∀ term, motive term
  | .null => null
  | .bool value => bool value
  | .number literal => number literal
  | .string content => string content
  | .array items =>
    array items fun item _ => Term.induction null bool number string array object item
  | .object members =>
    object members fun member _ => Term.induction null bool number string array object member.2
termination_by term => sizeOf term
decreasing_by
  · simp_wf
    have := List.sizeOf_lt_of_mem ‹item ∈ items›
    omega
  · simp_wf
    have := List.sizeOf_lt_of_mem ‹member ∈ members›
    cases member
    simp at this ⊢
    omega

end

mutual

/-- The term that is written for one that has been read: the literals are those of the numbers that
have been read. -/
def Term.sent : Term String → Term String
  | .array items => .array (sentItems items)
  | .object members => .object (sentMembers members)
  | .number literal => .number literal.sent
  | other => other

def sentItems : List (Term String) → List (Term String)
  | [] => []
  | item :: rest => item.sent :: sentItems rest

def sentMembers : List (String × Term String) → List (String × Term String)
  | [] => []
  | (name, value) :: rest => (name, value.sent) :: sentMembers rest

end

/-- Each literal of a term is of a kind. -/
inductive Term.Each {σ : Type} (kind : Literal → Prop) : Term σ → Prop where
  | null : Term.Each kind .null
  | bool (value : Bool) : Term.Each kind (.bool value)
  | number {literal : Literal} (holds : kind literal) : Term.Each kind (.number literal)
  | string (content : σ) : Term.Each kind (.string content)
  | array {items : List (Term σ)} (each : ∀ item ∈ items, Term.Each kind item) :
      Term.Each kind (.array items)
  | object {members : List (σ × Term σ)} (each : ∀ member ∈ members, Term.Each kind member.2) :
      Term.Each kind (.object members)

/-- Integers of 64 bits are sent as they are. -/
theorem meaning_sent {term : Term String} (whole : term.Each Literal.IsWhole) :
    term.sent.meaning = term.meaning := by
  induction term using Term.induction with
  | null | bool | string => rfl
  | number literal =>
    cases whole with
    | number holds => exact congrArg Meaning.number (value_sent holds)
  | array items ih =>
    cases whole with
    | array each =>
      refine congrArg Meaning.array ?_
      induction items with
      | nil => rfl
      | cons item others step =>
        obtain ⟨head, tail⟩ := List.forall_mem_cons.mp ih
        obtain ⟨wholeHead, wholeTail⟩ := List.forall_mem_cons.mp each
        rw [sentItems, meanings, head wholeHead, step tail wholeTail, meanings]
  | object members ih =>
    cases whole with
    | object each =>
      refine congrArg Meaning.object (funext fun name => ?_)
      induction members with
      | nil => rfl
      | cons member others step =>
        obtain ⟨other, value⟩ := member
        obtain ⟨head, tail⟩ := List.forall_mem_cons.mp ih
        obtain ⟨wholeHead, wholeTail⟩ := List.forall_mem_cons.mp each
        rw [sentMembers, memberMeaning, head wholeHead, step tail wholeTail, memberMeaning]

mutual

/-- The term that is written for a value. -/
def Value.term : Value → Term String
  | .null => .null
  | .bool value => .bool value
  | .integer value => .number (.ofInt value)
  | .float value => .number (.ofBinary64 value)
  | .string text => .string text
  | .array items => .array (itemTerms items)
  | .object members => .object (memberTerms members)

def itemTerms : List Value → List (Term String)
  | [] => []
  | item :: rest => item.term :: itemTerms rest

def memberTerms : List (String × Value) → List (String × Term String)
  | [] => []
  | (name, value) :: rest => (name, value.term) :: memberTerms rest

end

/-- What holds of a value if it holds of its parts holds of every value. -/
theorem Value.induction {motive : Value → Prop} (null : motive .null)
    (bool : ∀ value, motive (.bool value)) (integer : ∀ value, motive (.integer value))
    (float : ∀ value, motive (.float value)) (string : ∀ text, motive (.string text))
    (array : ∀ items : List Value, (∀ item ∈ items, motive item) → motive (.array items))
    (object : ∀ members : List (String × Value), (∀ member ∈ members, motive member.2) →
      motive (.object members)) : ∀ value, motive value
  | .null => null
  | .bool value => bool value
  | .integer value => integer value
  | .float value => float value
  | .string text => string text
  | .array items =>
    array items fun item _ => Value.induction null bool integer float string array object item
  | .object members =>
    object members fun member _ =>
      Value.induction null bool integer float string array object member.2
termination_by value => sizeOf value
decreasing_by
  · simp_wf
    have := List.sizeOf_lt_of_mem ‹item ∈ items›
    omega
  · simp_wf
    have := List.sizeOf_lt_of_mem ‹member ∈ members›
    cases member
    simp at this ⊢
    omega

/-- Items mean what each of them means. -/
theorem meanings_eq_map (items : List (Term String)) : meanings items = items.map Term.meaning := by
  induction items with
  | nil => rfl
  | cons item others ih => rw [meanings, ih, List.map_cons]

/-- Items are sent one by one. -/
theorem sentItems_eq_map (items : List (Term String)) : sentItems items = items.map Term.sent := by
  induction items with
  | nil => rfl
  | cons item others ih => rw [sentItems, ih, List.map_cons]

/-- Members are sent one by one, under their names. -/
theorem sentMembers_eq_map (members : List (String × Term String)) :
    sentMembers members = members.map fun member => (member.1, member.2.sent) := by
  induction members with
  | nil => rfl
  | cons member others ih => rw [sentMembers, ih, List.map_cons]

/-- The terms of items are the terms of each. -/
theorem itemTerms_eq_map (items : List Value) : itemTerms items = items.map Value.term := by
  induction items with
  | nil => rfl
  | cons item others ih => rw [itemTerms, ih, List.map_cons]

/-- The terms of members are the terms of each, under their names. -/
theorem memberTerms_eq_map (members : List (String × Value)) :
    memberTerms members = members.map fun member => (member.1, member.2.term) := by
  induction members with
  | nil => rfl
  | cons member others ih => rw [memberTerms, ih, List.map_cons]

/-! ## Items and members -/

section
variable {α β ν μ : Type} {first : Bool} {bytes rest : Bytes}

/-- Items that are also items of another kind. -/
theorem Items.transfer {item : Bytes → α → Bytes → Prop} {other : Bytes → β → Bytes → Prop}
    {alike : α → β → Prop} {values : List α}
    (turns : ∀ value ∈ values, ∀ bytes rest, item bytes value rest →
      ∃ found, other bytes found rest ∧ alike value found)
    (items : Items item first bytes values rest) :
    ∃ found, Items other first bytes found rest ∧ List.Forall₂ alike values found := by
  induction items with
  | done close => exact ⟨[], .done close, .nil⟩
  | next between head tail ih =>
    obtain ⟨value, isValue, same⟩ := turns _ List.mem_cons_self _ _ head
    obtain ⟨found, isFound, alikes⟩ := ih fun value member =>
      turns value (List.mem_cons_of_mem _ member)
    exact ⟨value :: found, .next between isValue isFound, .cons same alikes⟩

/-- Members that are also members of another kind. -/
theorem Members.transfer {name : Bytes → ν → Bytes → Prop} {called : Bytes → μ → Bytes → Prop}
    {value : Bytes → α → Bytes → Prop} {other : Bytes → β → Bytes → Prop} {same : ν → μ → Prop}
    {alike : α → β → Prop} {members : List (ν × α)}
    (named : ∀ key bytes rest, name bytes key rest →
      ∃ found, called bytes found rest ∧ same key found)
    (turns : ∀ key content, (key, content) ∈ members → ∀ bytes rest, value bytes content rest →
      ∃ found, other bytes found rest ∧ alike content found)
    (isMembers : Members name value first bytes members rest) :
    ∃ found, Members called other first bytes found rest ∧
      List.Forall₂ (fun member other => same member.1 other.1 ∧ alike member.2 other.2) members
        found := by
  induction isMembers with
  | done close => exact ⟨[], .done close, .nil⟩
  | next between quote spellsName colon head tail ih =>
    obtain ⟨key, isKey, sameKey⟩ := named _ _ _ spellsName
    obtain ⟨content, isContent, sameContent⟩ := turns _ _ List.mem_cons_self _ _ head
    obtain ⟨found, isFound, alikes⟩ := ih fun key content isMember =>
      turns key content (List.mem_cons_of_mem _ isMember)
    exact ⟨(key, content) :: found, .next between quote isKey colon isContent isFound,
      .cons ⟨sameKey, sameContent⟩ alikes⟩

/-- Behind blanks there are no more blanks. -/
@[simp] theorem skipBlanks_skipBlanks (bytes : Bytes) :
    skipBlanks (skipBlanks bytes) = skipBlanks bytes :=
  List.dropWhile_idempotent _ _

/-- Before a byte that is no blank there is nothing to skip. -/
theorem skipBlanks_cons {b : UInt8} (solid : isBlankByte b = false) (bytes : Bytes) :
    skipBlanks (b :: bytes) = b :: bytes :=
  List.dropWhile_cons_of_neg (by simp [solid])

/-- Where the next item starts. -/
theorem between_of_nextItem (looks : nextItem first bytes = .ok (true, rest)) :
    ∃ behind, Between first bytes behind ∧ skipBlanks behind = rest := by
  unfold nextItem at looks
  split at looks
  · cases looks
  next b after skipped =>
    split at looks
    · cases looks
    split at looks
    next isFirst =>
      cases looks
      subst isFirst
      exact ⟨bytes, rfl, skipped⟩
    next notFirst =>
      obtain rfl : first = false := by simpa using notFirst
      split at looks
      next comma =>
        rw [eq_of_beq comma] at skipped
        split at looks
        · cases looks
        next c behind skippedAgain =>
          split at looks
          · cases looks
          · cases looks
            exact ⟨after, skipped, skippedAgain⟩
      · cases looks

/-- Where an array ends only blanks have been passed. -/
theorem eq_skipBlanks_of_nextItem (looks : nextItem first bytes = .ok (false, rest)) :
    rest = skipBlanks bytes := by
  unfold nextItem at looks
  split at looks
  · cases looks
  next b after skipped =>
    split at looks
    next close =>
      cases looks
      exact skipped.symm
    next => grind [failAt]

/-- An array ends with its bracket. -/
theorem next_of_endItems (ends : endItems bytes = .ok rest) : Next bytes 0x5d rest := by
  unfold endItems at ends
  split at ends
  · cases ends
  next b after skipped =>
    split at ends
    next close =>
      cases ends
      rw [eq_of_beq close] at skipped
      exact skipped
    next => grind [failAt]

/-- Blanks do not matter to what comes next. -/
theorem next_skipBlanks {b : UInt8} : Next (skipBlanks bytes) b rest ↔ Next bytes b rest := by
  rw [Next, Next, skipBlanks_skipBlanks]

/-- What is read of an array: its items up to its end. -/
theorem items_of_readItems {item : Bytes → Outcome α} {bound : Nat} {done values : List α}
    (reads : readItems item bound done bytes = .ok (values, rest)) :
    ∃ more, values = done.reverse ++ more ∧
      Items (fun bytes value rest => item (skipBlanks bytes) = .ok (value, rest)) done.isEmpty
        bytes more rest := by
  induction bound generalizing done bytes with
  | zero => cases reads
  | succ bound ih =>
    obtain ⟨⟨more, after⟩, looks, reads⟩ := bind_eq_ok.mp reads
    dsimp only at reads
    split at reads
    next goesOn =>
      obtain rfl := goesOn
      obtain ⟨behind, between, rfl⟩ := between_of_nextItem looks
      obtain ⟨⟨value, left⟩, readsItem, reads⟩ := bind_eq_ok.mp reads
      obtain ⟨others, rfl, tail⟩ := ih reads
      exact ⟨value :: others, by simp, .next between (within_eq_ok.mp readsItem) tail⟩
    next ended =>
      obtain rfl : more = false := by simpa using ended
      obtain ⟨left, ends, reads⟩ := bind_eq_ok.mp reads
      rw [eq_skipBlanks_of_nextItem looks] at ends
      cases reads
      exact ⟨[], (List.append_nil _).symm, .done (next_skipBlanks.mp (next_of_endItems ends))⟩

/-- Where the name of the next member starts. -/
theorem between_of_nextMember (looks : nextMember first bytes = .ok (true, rest)) :
    ∃ behind, Between first bytes behind ∧ Next behind 0x22 rest := by
  unfold nextMember at looks
  split at looks
  · cases looks
  next b after skipped =>
    split at looks
    · cases looks
    split at looks
    next isFirst =>
      subst isFirst
      split at looks
      next quote =>
        cases looks
        rw [eq_of_beq quote] at skipped
        exact ⟨bytes, rfl, skipped⟩
      · cases looks
    next notFirst =>
      obtain rfl : first = false := by simpa using notFirst
      split at looks
      next comma =>
        rw [eq_of_beq comma] at skipped
        split at looks
        · cases looks
        next c behind skippedAgain =>
          split at looks
          next quote =>
            cases looks
            rw [eq_of_beq quote] at skippedAgain
            exact ⟨after, skipped, skippedAgain⟩
          · grind [failAt]
      · cases looks

/-- Where an object ends only blanks have been passed. -/
theorem eq_skipBlanks_of_nextMember (looks : nextMember first bytes = .ok (false, rest)) :
    rest = skipBlanks bytes := by
  unfold nextMember at looks
  split at looks
  · cases looks
  next b after skipped =>
    split at looks
    next close =>
      cases looks
      exact skipped.symm
    next => grind [failAt]

/-- An object ends with its brace. -/
theorem next_of_endMembers (ends : endMembers bytes = .ok rest) : Next bytes 0x7d rest := by
  unfold endMembers at ends
  split at ends
  · cases ends
  next b after skipped =>
    split at ends
    next close =>
      cases ends
      rw [eq_of_beq close] at skipped
      exact skipped
    next => grind [failAt]

/-- A colon that is passed is the next byte. -/
theorem next_of_expectColon (passes : expectColon bytes = .ok rest) : Next bytes 0x3a rest := by
  unfold expectColon at passes
  split at passes
  · cases passes
  next b after skipped =>
    split at passes
    next colon =>
      cases passes
      rw [eq_of_beq colon] at skipped
      exact skipped
    next => cases passes

/-- What the reader of names finds: a name behind its quote, or the end of the object. -/
theorem name_of_readName {bound : Nat} {name? : Option String}
    (reads : readName (readString bound) first bytes = .ok (name?, rest)) :
    match name? with
    | some name => ∃ behind opened, Between first bytes behind ∧ Next behind 0x22 opened ∧
        IsText opened name rest
    | none => rest = skipBlanks bytes := by
  obtain ⟨⟨more, opened⟩, looks, reads⟩ := bind_eq_ok.mp (within_eq_ok.mp reads)
  dsimp only at reads
  split at reads
  next goesOn =>
    obtain rfl := goesOn
    obtain ⟨⟨name, left⟩, readsName, reads⟩ := bind_eq_ok.mp reads
    cases reads
    obtain ⟨behind, between, quote⟩ := between_of_nextMember looks
    exact ⟨behind, opened, between, quote, isText_of_readString readsName⟩
  next ended =>
    obtain rfl : more = false := by simpa using ended
    cases reads
    exact eq_skipBlanks_of_nextMember looks

/-- What is read of an object: its members up to its end. -/
theorem members_of_readMembers {reader : Bytes → Outcome α} {bound rounds : Nat}
    {done members : List (String × α)}
    (reads : readMembers (readString bound) reader rounds done bytes = .ok (members, rest)) :
    ∃ more, members = done.reverse ++ more ∧
      Members IsText (fun bytes value rest => reader bytes = .ok (value, rest)) done.isEmpty
        bytes more rest := by
  induction rounds generalizing done bytes with
  | zero => cases reads
  | succ rounds ih =>
    obtain ⟨⟨name?, after⟩, readsName, reads⟩ := bind_eq_ok.mp reads
    have named := name_of_readName readsName
    cases name? with
    | some name =>
      obtain ⟨behind, opened, between, quote, isText⟩ := named
      obtain ⟨valued, colon, reads⟩ := bind_eq_ok.mp reads
      obtain ⟨⟨member, left⟩, readsValue, reads⟩ := bind_eq_ok.mp reads
      obtain ⟨others, rfl, tail⟩ := ih reads
      exact ⟨(name, member) :: others, by simp,
        .next between quote isText (next_of_expectColon colon) (within_eq_ok.mp readsValue) tail⟩
    | none =>
      obtain ⟨left, ends, reads⟩ := bind_eq_ok.mp reads
      rw [named] at ends
      cases reads
      exact ⟨[], (List.append_nil _).symm, .done (next_skipBlanks.mp (next_of_endMembers ends))⟩

end

/-! ## Values -/

section
variable {σ : Type} {text : Bytes → σ → Bytes → Prop} {bytes rest : Bytes}

/-- Blanks in front do not matter. -/
theorem Spells.congr_skipBlanks {other : Bytes} {term : Term σ}
    (spells : Spells text bytes term rest) (same : skipBlanks other = skipBlanks bytes) :
    Spells text other term rest := by
  cases spells with
  | null word => exact .null (same.trans word)
  | true word => exact .true (same.trans word)
  | false word => exact .false (same.trans word)
  | number digits => exact .number (same.trans digits)
  | string quote inside => exact .string (same.trans quote) inside
  | array bracket inside => exact .array (same.trans bracket) inside
  | object brace inside => exact .object (same.trans brace) inside

/-- A word that is read is spelled by its letters. -/
theorem encode_of_readLiteral {α : Type} {literal value : α} {letters : List Char}
    (small : ∀ c ∈ letters, c.toNat < 128)
    (reads : readLiteral literal letters bytes = .ok (value, rest)) :
    literal = value ∧ bytes = encode letters ++ rest := by
  fun_induction readLiteral literal letters bytes with
  | case1 after =>
    cases reads
    exact ⟨rfl, rfl⟩
  | case2 => cases reads
  | case3 c others b after same ih =>
    obtain ⟨rfl, rfl⟩ := ih (fun c member => small c (List.mem_cons_of_mem _ member)) reads
    refine ⟨rfl, ?_⟩
    rw [encode_cons_of_lt (small c List.mem_cons_self), ← eq_of_beq same, UInt8.ofNat_toNat]
    rfl
  | case4 => cases reads

/-- A literal that the reader makes a number of. -/
def Literal.IsRead (literal : Literal) : Prop := ∃ number, literal.Reads number

/-- What the reader makes of a term whose numbers it can read. -/
def Value.ReadOff (value : Value) (term : Term String) : Prop :=
  value.term = term.sent ∧ term.Each Literal.IsRead

/-- A number is read off its literal. -/
theorem readOff_toValue {literal : Literal} {number : Number} (reads : literal.Reads number) :
    number.toValue.ReadOff (.number literal) := by
  refine ⟨?_, .number ⟨number, reads⟩⟩
  rw [Term.sent, sent_of_number? reads.number?_eq]
  cases number <;> rfl

/-- What is read of a value that is neither an array nor an object. -/
theorem spells_of_readScalar {bound : Nat} {b : UInt8} {value : Value} {after : Bytes}
    (skipped : skipBlanks bytes = b :: after)
    (reads : readScalar bound b after = .ok (value, rest)) :
    ∃ term, Spells IsText bytes term rest ∧ value.ReadOff term := by
  unfold readScalar at reads
  split at reads
  next isNull =>
    obtain ⟨rfl, word⟩ := encode_of_readLiteral (by simp) reads
    rw [eq_of_beq isNull, word] at skipped
    exact ⟨.null, .null skipped, rfl, .null⟩
  split at reads
  next isTrue =>
    obtain ⟨rfl, word⟩ := encode_of_readLiteral (by simp) reads
    rw [eq_of_beq isTrue, word] at skipped
    exact ⟨.bool true, .true skipped, rfl, .bool true⟩
  split at reads
  next isFalse =>
    obtain ⟨rfl, word⟩ := encode_of_readLiteral (by simp) reads
    rw [eq_of_beq isFalse, word] at skipped
    exact ⟨.bool false, .false skipped, rfl, .bool false⟩
  split at reads
  next isMinus =>
    obtain ⟨number, readsNumber, rfl⟩ := mapOutcome_eq_ok.mp reads
    obtain ⟨literal, negative, split, found⟩ := exists_literal readsNumber
    refine ⟨.number literal, .number ?_, readOff_toValue found⟩
    rw [skipped, eq_of_beq isMinus, split, Literal.text, negative]
    rfl
  split at reads
  next isDigit =>
    obtain ⟨number, readsNumber, rfl⟩ := mapOutcome_eq_ok.mp reads
    obtain ⟨literal, negative, split, found⟩ := exists_literal readsNumber
    refine ⟨.number literal, .number ?_, readOff_toValue found⟩
    rw [skipped, split, Literal.text, negative]
    rfl
  split at reads
  next isQuote =>
    obtain ⟨content, readsText, rfl⟩ := mapOutcome_eq_ok.mp reads
    rw [eq_of_beq isQuote] at skipped
    exact ⟨.string content, .string skipped (isText_of_readString readsText), rfl, .string content⟩
  · cases reads

/-- An array is read off its items. -/
theorem readOff_array {items : List Value} {terms : List (Term String)}
    (alike : List.Forall₂ Value.ReadOff items terms) :
    (Value.array items).ReadOff (.array terms) := by
  have both : itemTerms items = sentItems terms ∧ ∀ term ∈ terms, term.Each Literal.IsRead := by
    induction alike with
    | nil => exact ⟨rfl, by simp⟩
    | cons same _ ih =>
      rw [itemTerms, sentItems, same.1, ih.1]
      exact ⟨rfl, List.forall_mem_cons.mpr ⟨same.2, ih.2⟩⟩
  exact ⟨congrArg Term.array both.1, .array both.2⟩

/-- An object is read off its members. -/
theorem readOff_object {members : List (String × Value)} {terms : List (String × Term String)}
    (alike : List.Forall₂ (fun member other => member.1 = other.1 ∧ member.2.ReadOff other.2)
      members terms) : (Value.object members).ReadOff (.object terms) := by
  have both : memberTerms members = sentMembers terms ∧
      ∀ member ∈ terms, member.2.Each Literal.IsRead := by
    induction alike with
    | nil => exact ⟨rfl, by simp⟩
    | cons same _ ih =>
      rw [memberTerms, sentMembers, same.1, same.2.1, ih.1]
      exact ⟨rfl, List.forall_mem_cons.mpr ⟨same.2.2, ih.2⟩⟩
  exact ⟨congrArg Term.object both.1, .object both.2⟩

/-- What is read is what the reader makes of the term that is spelled. -/
theorem spells_of_readValue {bound depth : Nat} {value : Value}
    (reads : readValue bound depth bytes = .ok (value, rest)) :
    ∃ term, Spells IsText bytes term rest ∧ value.ReadOff term := by
  induction depth generalizing bytes value rest with
  | zero =>
    unfold readValue at reads
    split at reads
    · cases reads
    next b after skipped =>
      split at reads
      · cases reads
      · exact spells_of_readScalar skipped reads
  | succ depth ih =>
    unfold readValue at reads
    split at reads
    · cases reads
    next b after skipped =>
      split at reads
      next bracket =>
        obtain ⟨items, readsItems, rfl⟩ := mapOutcome_eq_ok.mp reads
        obtain ⟨items, rfl, isItems⟩ := items_of_readItems readsItems
        obtain ⟨terms, isTerms, alike⟩ := isItems.transfer fun value _ bytes rest reads =>
          (ih reads).imp fun term found =>
            ⟨found.1.congr_skipBlanks (skipBlanks_skipBlanks _).symm, found.2⟩
        rw [eq_of_beq bracket] at skipped
        exact ⟨.array terms, .array skipped isTerms, readOff_array alike⟩
      split at reads
      next brace =>
        obtain ⟨members, readsMembers, rfl⟩ := mapOutcome_eq_ok.mp reads
        obtain ⟨members, rfl, isMembers⟩ := members_of_readMembers readsMembers
        obtain ⟨terms, isTerms, alike⟩ := isMembers.transfer
          (fun key bytes rest named => ⟨key, named, rfl⟩)
          fun key value _ bytes rest reads => ih reads
        rw [eq_of_beq brace] at skipped
        exact ⟨.object terms, .object skipped isTerms, readOff_object alike⟩
      next => exact spells_of_readScalar skipped reads

end

end Switchboard.Json
