import Switchboard.Proofs.Json.Skipping

/-!
# A text spells one term

Bytes spell at most one term, up to at most one place (`Spells.unique`), unless what follows could
belong to a number. So a text denotes at most one value (`Denotes.unique`).
-/

namespace Switchboard.Json

open Text (encode)

variable {bytes first second : Bytes}

/-- Only one thing of a kind stands at the front of bytes. -/
def Functional {α : Type} (kind : Bytes → α → Bytes → Prop) : Prop :=
  ∀ ⦃bytes value rest found other⦄, kind bytes value rest → kind bytes found other →
    value = found ∧ rest = other

/-! ## Numbers -/

/-- Whether a byte could belong to the number before it. -/
def continuesNumber (b : UInt8) : Bool := isDigitByte b || b == 0x2e || b == 0x65 || b == 0x45

/-- A number ends before bytes. -/
def Ends : Bytes → Prop
  | [] => True
  | b :: _ => continuesNumber b = false

/-- Where a number ends there is no digit. -/
theorem Ends.startsWithDigit (ends : Ends bytes) : startsWithDigit bytes = false := by
  cases bytes with
  | nil => rfl
  | cons b others =>
    have apart : isDigitByte b = false ∧ ¬b = 0x2e ∧ ¬b = 0x65 ∧ ¬b = 0x45 := by
      simpa [Ends, continuesNumber, and_assoc] using ends
    exact apart.1

/-- Digits end where the first byte stands that is none. -/
theorem spelled_unique {digits others : List Digit}
    (same : spelled digits ++ first = spelled others ++ second)
    (stops : startsWithDigit first = false) (otherStops : startsWithDigit second = false) :
    digits = others ∧ first = second := by
  induction digits generalizing others with
  | nil =>
    cases others with
    | nil => exact ⟨rfl, same⟩
    | cons digit more =>
      obtain rfl : first = spelled (digit :: more) ++ second := same
      rw [startsWithDigit_spelled (List.cons_ne_nil _ _)] at stops
      cases stops
  | cons digit more ih =>
    cases others with
    | nil =>
      obtain rfl : spelled (digit :: more) ++ first = second := same
      rw [startsWithDigit_spelled (List.cons_ne_nil _ _)] at otherStops
      cases otherStops
    | cons other rest =>
      obtain ⟨head, tail⟩ := List.cons.inj same
      obtain ⟨rfl, rest⟩ := ih tail
      rw [digitByte_injective head]
      exact ⟨rfl, rest⟩

/-- Digits do not begin with anything else, such as a sign. -/
theorem spelled_ne_cons {digits : List Digit} (nonempty : digits ≠ []) {b : UInt8}
    (noDigit : isDigitByte b = false) : spelled digits ++ first ≠ b :: second := by
  obtain ⟨digit, more, rfl⟩ := List.exists_cons_of_ne_nil nonempty
  exact fun same => digitByte_ne digit noDigit (List.cons.inj same).1

/-- An exponent is determined by its text, where a number ends behind it. -/
theorem scale_unique {scale other : Scale} (same : scale.text ++ first = other.text ++ second)
    (ends : Ends first) (otherEnds : Ends second) : scale = other ∧ first = second := by
  obtain ⟨capital, sign, digits, ne_nil⟩ := scale
  obtain ⟨otherCapital, otherSign, otherDigits, other_ne_nil⟩ := other
  obtain ⟨mark, tail⟩ := List.cons.inj same
  obtain rfl : capital = otherCapital := by
    cases capital <;> cases otherCapital <;> simp at mark ⊢
  have alike (sameSign : sign = otherSign)
      (same : spelled digits ++ first = spelled otherDigits ++ second) :
      (⟨capital, sign, digits, ne_nil⟩ : Scale) =
        ⟨capital, otherSign, otherDigits, other_ne_nil⟩ ∧ first = second := by
    obtain ⟨rfl, rest⟩ := spelled_unique same ends.startsWithDigit otherEnds.startsWithDigit
    subst sameSign
    exact ⟨rfl, rest⟩
  cases sign with
  | unwritten =>
    cases otherSign with
    | unwritten => exact alike rfl tail
    | plus => exact absurd tail (spelled_ne_cons ne_nil rfl)
    | minus => exact absurd tail (spelled_ne_cons ne_nil rfl)
  | plus =>
    cases otherSign with
    | unwritten => exact absurd tail.symm (spelled_ne_cons other_ne_nil rfl)
    | plus => exact alike rfl (List.cons.inj tail).2
    | minus => exact absurd (List.cons.inj tail).1 (by decide)
  | minus =>
    cases otherSign with
    | unwritten => exact absurd tail.symm (spelled_ne_cons other_ne_nil rfl)
    | plus => exact absurd (List.cons.inj tail).1 (by decide)
    | minus => exact alike rfl (List.cons.inj tail).2

/-- Where a number ends no exponent begins. -/
theorem ne_mark_of_ends (ends : Ends bytes) (scale : Scale) (rest : Bytes) :
    bytes ≠ scale.text ++ rest := by
  rintro rfl
  obtain ⟨capital, sign, digits, ne_nil⟩ := scale
  cases capital <;> cases ends

/-- Whether there is an exponent is determined as well. -/
theorem scaled_unique {scale other : Option Scale}
    (same : scaled scale ++ first = scaled other ++ second) (ends : Ends first)
    (otherEnds : Ends second) : scale = other ∧ first = second := by
  cases scale with
  | none =>
    cases other with
    | none => exact ⟨rfl, same⟩
    | some other => exact absurd same (ne_mark_of_ends ends other second)
  | some scale =>
    cases other with
    | none => exact absurd same.symm (ne_mark_of_ends otherEnds scale first)
    | some other =>
      obtain ⟨rfl, rest⟩ := scale_unique same ends otherEnds
      exact ⟨rfl, rest⟩

/-- What follows the decimal places does not look like a point or like further places. -/
theorem scaled_append (scale : Option Scale) (ends : Ends bytes) :
    startsWithDigit (scaled scale ++ bytes) = false ∧
      ∀ rest, scaled scale ++ bytes ≠ 0x2e :: rest := by
  cases scale with
  | none =>
    refine ⟨ends.startsWithDigit, ?_⟩
    rintro rest rfl
    cases ends
  | some scale =>
    obtain ⟨capital, sign, digits, ne_nil⟩ := scale
    cases capital with
    | true => exact ⟨rfl, fun rest same => absurd (List.cons.inj same).1 (by simp)⟩
    | false => exact ⟨rfl, fun rest same => absurd (List.cons.inj same).1 (by simp)⟩

/-- So are the decimal places. -/
theorem pointed_unique {places others : List Digit}
    (same : pointed places ++ first = pointed others ++ second)
    (stops : startsWithDigit first = false) (otherStops : startsWithDigit second = false)
    (unpointed : ∀ rest, first ≠ 0x2e :: rest) (otherUnpointed : ∀ rest, second ≠ 0x2e :: rest) :
    places = others ∧ first = second := by
  cases places with
  | nil =>
    cases others with
    | nil => exact ⟨rfl, same⟩
    | cons digit more => exact absurd same (unpointed _)
  | cons digit more =>
    cases others with
    | nil => exact absurd same.symm (otherUnpointed _)
    | cons other rest => exact spelled_unique (List.cons.inj same).2 stops otherStops

/-- A number is determined by its text, where a number ends behind it. -/
theorem literal_unique {literal other : Literal}
    (same : literal.text ++ first = other.text ++ second) (ends : Ends first)
    (otherEnds : Ends second) : literal = other ∧ first = second := by
  obtain ⟨negative, whole, places, scale, ne_nil, no_leading_zero⟩ := literal
  obtain ⟨otherNegative, otherWhole, otherPlaces, otherScale, other_ne_nil, _⟩ := other
  have alike (sameSign : negative = otherNegative)
      (same : spelled whole ++ (pointed places ++ scaled scale) ++ first =
        spelled otherWhole ++ (pointed otherPlaces ++ scaled otherScale) ++ second) :
      (⟨negative, whole, places, scale, ne_nil, no_leading_zero⟩ : Literal) =
        ⟨otherNegative, otherWhole, otherPlaces, otherScale, other_ne_nil, ‹_›⟩ ∧
          first = second := by
    obtain ⟨stops, unpointed⟩ := scaled_append scale ends
    obtain ⟨otherStops, otherUnpointed⟩ := scaled_append otherScale otherEnds
    simp only [List.append_assoc] at same
    obtain ⟨rfl, tail⟩ := spelled_unique same (startsWithDigit_pointed places stops)
      (startsWithDigit_pointed otherPlaces otherStops)
    obtain ⟨rfl, scaledTail⟩ := pointed_unique tail stops otherStops unpointed otherUnpointed
    obtain ⟨rfl, rest⟩ := scaled_unique scaledTail ends otherEnds
    subst sameSign
    exact ⟨rfl, rest⟩
  cases negative with
  | true =>
    cases otherNegative with
    | true => exact alike rfl (List.cons.inj same).2
    | false =>
      refine absurd same.symm ?_
      rw [Literal.text, if_neg Bool.false_ne_true, Literal.magnitude, List.append_assoc]
      exact spelled_ne_cons other_ne_nil rfl
  | false =>
    cases otherNegative with
    | true =>
      refine absurd same ?_
      rw [Literal.text, if_neg Bool.false_ne_true, Literal.magnitude, List.append_assoc]
      exact spelled_ne_cons ne_nil rfl
    | false => exact alike rfl same

/-! ## Strings -/

/-- Four hexadecimal digits are one number. -/
theorem Hex4.unique {n m : Nat} (hex : Hex4 bytes n first) (other : Hex4 bytes m second) :
    n = m ∧ first = second := by
  cases hex with
  | digits a b c d =>
    cases other with
    | digits e f g h =>
      obtain rfl := Option.some.inj (a.symm.trans e)
      obtain rfl := Option.some.inj (b.symm.trans f)
      obtain rfl := Option.some.inj (c.symm.trans g)
      obtain rfl := Option.some.inj (d.symm.trans h)
      exact ⟨rfl, rfl⟩

/-- An escape stands for one character. -/
theorem Escape.unique {c d : Char} (escape : Escape bytes c first)
    (other : Escape bytes d second) : c = d ∧ first = second := by
  have notLetter : simpleEscape? 0x75 = none := by decide
  cases escape with
  | letter means =>
    cases other with
    | letter otherMeans =>
      exact ⟨Option.some.inj (means.symm.trans otherMeans), rfl⟩
    | point hex single => simp [notLetter] at means
    | pair hex isHigh low isLow => simp [notLetter] at means
  | point hex single =>
    cases other with
    | letter means => simp [notLetter] at means
    | point otherHex otherSingle =>
      obtain ⟨rfl, rfl⟩ := hex.unique otherHex
      exact ⟨rfl, rfl⟩
    | pair otherHex isHigh low isLow =>
      obtain ⟨rfl, -⟩ := hex.unique otherHex
      omega
  | pair hex isHigh low isLow =>
    cases other with
    | letter means => simp [notLetter] at means
    | point otherHex single =>
      obtain ⟨rfl, -⟩ := hex.unique otherHex
      omega
    | pair otherHex otherIsHigh otherLow otherIsLow =>
      obtain ⟨rfl, same⟩ := hex.unique otherHex
      obtain ⟨-, middle⟩ := List.cons.inj (List.cons.inj same).2
      subst middle
      obtain ⟨rfl, rfl⟩ := low.unique otherLow
      exact ⟨rfl, rfl⟩

/-- A string has one content and one end. -/
theorem Quoted.unique {content other : Bytes} (quoted : Quoted bytes content first)
    (otherQuoted : Quoted bytes other second) : content = other ∧ first = second := by
  induction quoted generalizing other with
  | close =>
    cases otherQuoted with
    | close => exact ⟨rfl, rfl⟩
    | plain isPlain tail => exact absurd rfl isPlain.1
  | plain isPlain tail ih =>
    cases otherQuoted with
    | close => exact absurd rfl isPlain.1
    | plain otherPlain otherTail =>
      obtain ⟨rfl, rest⟩ := ih otherTail
      exact ⟨rfl, rest⟩
    | escape means otherTail => exact absurd rfl isPlain.2.1
  | escape means tail ih =>
    cases otherQuoted with
    | plain isPlain otherTail => exact absurd rfl isPlain.2.1
    | escape otherMeans otherTail =>
      obtain ⟨rfl, rfl⟩ := means.unique otherMeans
      obtain ⟨rfl, rest⟩ := ih otherTail
      exact ⟨rfl, rest⟩

/-- Different texts have different bytes. -/
theorem encode_toList_injective {text other : String}
    (same : encode text.toList = encode other.toList) : text = other := by
  rw [← Text.toList_toUTF8, ← Text.toList_toUTF8] at same
  have bytes := Text.toList_injective same
  exact String.toByteArray_inj.mp bytes

/-- A string that is a text is one text. -/
theorem functional_isText : Functional IsText := by
  intro bytes text first other second isText isOther
  obtain ⟨same, rest⟩ := Quoted.unique isText isOther
  exact ⟨encode_toList_injective same, rest⟩

/-- A string whose content does not matter still has one end. -/
theorem functional_loose : Functional Loose := by
  intro bytes content first other second loose otherLoose
  refine ⟨rfl, ?_⟩
  have notLetter : simpleEscape? 0x75 = none := by decide
  induction loose with
  | close =>
    cases otherLoose with
    | close => rfl
    | plain isPlain tail => exact absurd rfl isPlain.1
  | plain isPlain tail ih =>
    cases otherLoose with
    | close => exact absurd rfl isPlain.1
    | plain otherPlain otherTail => exact ih otherTail
    | letter known otherTail => exact absurd rfl isPlain.2.1
    | point hex otherTail => exact absurd rfl isPlain.2.1
  | letter known tail ih =>
    cases otherLoose with
    | plain isPlain otherTail => exact absurd rfl isPlain.2.1
    | letter otherKnown otherTail => exact ih otherTail
    | point hex otherTail => simp [notLetter] at known
  | point hex tail ih =>
    cases otherLoose with
    | plain isPlain otherTail => exact absurd rfl isPlain.2.1
    | letter known otherTail => simp [notLetter] at known
    | point otherHex otherTail =>
      obtain ⟨-, rfl⟩ := hex.unique otherHex
      exact ih otherTail

/-! ## Items and members -/

section
variable {α ν : Type} {b c : UInt8} {first rest other : Bytes}

/-- There is one next byte. -/
theorem Next.unique {rest other : Bytes} (next : Next bytes b rest) (also : Next bytes c other) :
    b = c ∧ rest = other :=
  List.cons.inj (next.symm.trans also)

/-- A number ends before a blank. -/
theorem ends_of_isBlankByte (blank : isBlankByte b = true) (others : Bytes) :
    Ends (b :: others) := by
  simp only [isBlankByte, Bool.or_eq_true, beq_iff_eq] at blank
  rcases blank with ((rfl | rfl) | rfl) | rfl <;> rfl

/-- Blanks and the next byte are what a number may end before. -/
theorem ends_of_next (next : Next bytes b rest) (solid : Ends (b :: rest)) : Ends bytes := by
  cases bytes with
  | nil => trivial
  | cons a others =>
    cases blank : isBlankByte a with
    | true => exact ends_of_isBlankByte blank others
    | false =>
      obtain ⟨rfl, rfl⟩ := List.cons.inj ((skipBlanks_cons blank others).symm.trans next)
      exact solid

/-- Blanks to the end are what a number may end before. -/
theorem ends_of_skipBlanks (ended : skipBlanks bytes = []) : Ends bytes := by
  cases bytes with
  | nil => trivial
  | cons a others =>
    cases blank : isBlankByte a with
    | true => exact ends_of_isBlankByte blank others
    | false => cases (skipBlanks_cons blank others).symm.trans ended

/-- A number ends before a further item and before the end of the array. -/
theorem Items.ends {item : Bytes → α → Bytes → Prop} {values : List α}
    (items : Items item false bytes values rest) : Ends bytes := by
  cases items with
  | done close => exact ends_of_next close rfl
  | next between head tail => exact ends_of_next between rfl

/-- A number ends before a further member and before the end of the object. -/
theorem Members.ends {name : Bytes → ν → Bytes → Prop} {value : Bytes → α → Bytes → Prop}
    {members : List (ν × α)} (isMembers : Members name value false bytes members rest) :
    Ends bytes := by
  cases isMembers with
  | done close => exact ends_of_next close rfl
  | next between quote spellsName colon head tail =>
    exact ends_of_next between rfl

/-- Nothing but a value stands where it stands, if a number that it ends with ends there. -/
def UniqueAt (item : Bytes → α → Bytes → Prop) (value : α) : Prop :=
  ∀ ⦃bytes rest found other⦄, item bytes value rest → item bytes found other → Ends rest →
    Ends other → value = found ∧ rest = other

/-- What stands before an item or a member has one end. -/
theorem Between.unique {start : Bool} {behind other : Bytes} (between : Between start bytes behind)
    (also : Between start bytes other) : behind = other := by
  cases start with
  | true => exact Eq.trans between (Eq.symm also)
  | false => exact (Next.unique between also).2

/-- Where something stands, nothing is closed: neither at its first byte nor at the comma before. -/
theorem not_next_of_between {start : Bool} {behind : Bytes} (between : Between start bytes behind)
    (opens : ∀ after, ¬ Next behind c after) (noComma : 0x2c ≠ c) : ¬ Next bytes c rest := by
  intro close
  cases start with
  | true =>
    obtain rfl : behind = bytes := between
    exact opens rest close
  | false => exact noComma (Next.unique between close).1

/-- Items are determined by their text if each of them is. -/
theorem Items.unique {item : Bytes → α → Bytes → Prop} {start : Bool} {values found : List α}
    (opens : ∀ {bytes value rest}, item bytes value rest → ∀ after, ¬ Next bytes 0x5d after)
    (unique : ∀ value ∈ values, UniqueAt item value)
    (items : Items item start bytes values rest) (others : Items item start bytes found other) :
    values = found ∧ rest = other := by
  induction items generalizing found with
  | done close =>
    cases others with
    | done otherClose => exact ⟨rfl, (close.unique otherClose).2⟩
    | next between head tail =>
      exact absurd close (not_next_of_between between (opens head) (by decide))
  | next between head tail ih =>
    cases others with
    | done close => exact absurd close (not_next_of_between between (opens head) (by decide))
    | next otherBetween otherHead otherTail =>
      obtain rfl := between.unique otherBetween
      obtain ⟨rfl, rfl⟩ :=
        unique _ List.mem_cons_self head otherHead tail.ends otherTail.ends
      obtain ⟨rfl, rest⟩ := ih (fun value member => unique value (List.mem_cons_of_mem _ member))
        otherTail
      exact ⟨rfl, rest⟩

/-- Members are determined by their text if names and values are. -/
theorem Members.unique {name : Bytes → ν → Bytes → Prop} {value : Bytes → α → Bytes → Prop}
    {start : Bool} {members found : List (ν × α)}
    (named : Functional name)
    (unique : ∀ key content, (key, content) ∈ members → UniqueAt value content)
    (isMembers : Members name value start bytes members rest)
    (others : Members name value start bytes found other) : members = found ∧ rest = other := by
  have opens {bytes opened : Bytes} (quote : Next bytes 0x22 opened) (after : Bytes) :
      ¬ Next bytes 0x7d after := fun close => absurd (quote.unique close).1 (by decide)
  induction isMembers generalizing found with
  | done close =>
    cases others with
    | done otherClose => exact ⟨rfl, (close.unique otherClose).2⟩
    | next between quote spellsName colon head tail =>
      exact absurd close (not_next_of_between between (opens quote) (by decide))
  | next between quote spellsName colon head tail ih =>
    cases others with
    | done close => exact absurd close (not_next_of_between between (opens quote) (by decide))
    | next otherBetween otherQuote otherName otherColon otherHead otherTail =>
      obtain rfl := between.unique otherBetween
      obtain ⟨-, rfl⟩ := quote.unique otherQuote
      obtain ⟨rfl, rfl⟩ := named spellsName otherName
      obtain ⟨-, rfl⟩ := colon.unique otherColon
      obtain ⟨rfl, rfl⟩ :=
        unique _ _ List.mem_cons_self head otherHead tail.ends otherTail.ends
      obtain ⟨rfl, rest⟩ := ih
        (fun key content member => unique key content (List.mem_cons_of_mem _ member)) otherTail
      exact ⟨rfl, rest⟩

end

/-! ## Terms -/

section
variable {σ : Type} {text : Bytes → σ → Bytes → Prop} {rest other : Bytes}

/-- What a term is, as far as its first byte tells. -/
inductive Shape where
  | null
  | true
  | false
  | number
  | string
  | array
  | object
deriving DecidableEq

def Term.shape : Term σ → Shape
  | .null => .null
  | .bool true => .true
  | .bool false => .false
  | .number _ => .number
  | .string _ => .string
  | .array _ => .array
  | .object _ => .object

/-- The shape of a term that begins with a byte, if one can. -/
def shapeOf? (b : UInt8) : Option Shape :=
  if b = 0x6e then some .null
  else if b = 0x74 then some .true
  else if b = 0x66 then some .false
  else if b = 0x22 then some .string
  else if b = 0x5b then some .array
  else if b = 0x7b then some .object
  else if b = 0x2d ∨ isDigitByte b = true then some .number
  else none

/-- A digit begins a number. -/
theorem shapeOf?_digitByte (digit : Digit) : shapeOf? (digitByte digit) = some .number := by
  revert digit
  decide

/-- So does the text of a number. -/
theorem shapeOf?_text (literal : Literal) (rest : Bytes) :
    (literal.text ++ rest).head?.bind shapeOf? = some .number := by
  obtain ⟨negative, whole, places, scale, ne_nil, no_leading_zero⟩ := literal
  obtain ⟨digit, others, rfl⟩ := List.exists_cons_of_ne_nil ne_nil
  cases negative with
  | true => rfl
  | false => exact shapeOf?_digitByte digit

/-- The first byte of a term tells what kind of term it is. -/
theorem Spells.shape {term : Term σ} (spells : Spells text bytes term rest) :
    (skipBlanks bytes).head?.bind shapeOf? = some term.shape := by
  cases spells with
  | null word => rw [word]; rfl
  | true word => rw [word]; rfl
  | false word => rw [word]; rfl
  | number digits => rw [digits, shapeOf?_text]; rfl
  | string quote inside => rw [Next] at quote; rw [quote]; rfl
  | array bracket inside => rw [Next] at bracket; rw [bracket]; rfl
  | object brace inside => rw [Next] at brace; rw [brace]; rfl

/-- No term begins with the end of an array. -/
theorem Spells.not_close {term : Term σ} (spells : Spells text bytes term rest) (after : Bytes) :
    ¬ Next bytes 0x5d after := by
  intro close
  have shape := spells.shape
  rw [close] at shape
  cases shape

/-- Terms that are spelled at the same place are of the same kind. -/
theorem Spells.shape_eq {term found : Term σ} (spells : Spells text bytes term rest)
    (also : Spells text bytes found other) : term.shape = found.shape :=
  Option.some.inj (spells.shape.symm.trans also.shape)

/-- Bytes spell one term at most. -/
theorem Spells.unique (texts : Functional text) (term : Term σ) : UniqueAt (Spells text) term := by
  induction term using Term.induction with
  | null =>
    intro bytes rest found other spells also ends otherEnds
    have same := spells.shape_eq also
    cases spells with
    | null word =>
      cases also with
      | null otherWord => exact ⟨rfl, List.append_cancel_left (word.symm.trans otherWord)⟩
      | _ => cases same
  | bool value =>
    intro bytes rest found other spells also ends otherEnds
    have same := spells.shape_eq also
    cases spells with
    | true word =>
      cases also with
      | true otherWord => exact ⟨rfl, List.append_cancel_left (word.symm.trans otherWord)⟩
      | _ => cases same
    | false word =>
      cases also with
      | false otherWord => exact ⟨rfl, List.append_cancel_left (word.symm.trans otherWord)⟩
      | _ => cases same
  | number literal =>
    intro bytes rest found other spells also ends otherEnds
    have same := spells.shape_eq also
    cases spells with
    | number digits =>
      cases also with
      | number otherDigits =>
        obtain ⟨rfl, rest⟩ := literal_unique (digits.symm.trans otherDigits) ends otherEnds
        exact ⟨rfl, rest⟩
      | _ => cases same
  | string content =>
    intro bytes rest found other spells also ends otherEnds
    have same := spells.shape_eq also
    cases spells with
    | string quote inside =>
      cases also with
      | string otherQuote otherInside =>
        obtain ⟨-, rfl⟩ := quote.unique otherQuote
        obtain ⟨rfl, rest⟩ := texts inside otherInside
        exact ⟨rfl, rest⟩
      | _ => cases same
  | array items ih =>
    intro bytes rest found other spells also ends otherEnds
    have same := spells.shape_eq also
    cases spells with
    | array bracket inside =>
      cases also with
      | array otherBracket otherInside =>
        obtain ⟨-, rfl⟩ := bracket.unique otherBracket
        obtain ⟨rfl, rest⟩ := inside.unique Spells.not_close ih otherInside
        exact ⟨rfl, rest⟩
      | _ => cases same
  | object members ih =>
    intro bytes rest found other spells also ends otherEnds
    have same := spells.shape_eq also
    cases spells with
    | object brace inside =>
      cases also with
      | object otherBrace otherInside =>
        obtain ⟨-, rfl⟩ := brace.unique otherBrace
        obtain ⟨rfl, rest⟩ :=
          inside.unique texts (fun key content => ih (key, content)) otherInside
        exact ⟨rfl, rest⟩
      | _ => cases same

end

/-- A text denotes one value at most. -/
theorem Denotes.unique {text : Bytes} {meaning other : Meaning} (denotes : Denotes text meaning)
    (also : Denotes text other) : meaning = other := by
  obtain ⟨term, spells, rfl⟩ := denotes
  obtain ⟨found, isFound, rfl⟩ := also
  have ended : Ends [] := trivial
  rw [(Spells.unique functional_isText term spells isFound ended ended).1]

end Switchboard.Json
