import Switchboard.Proofs.Json.Members
import Switchboard.Proofs.Json.Values

/-!
# Writing values

What is written for a value spells its term (`spells_chars`), and its canonical form has the same
meaning (`meaning_canonical`), since the members that it keeps are those that count. So the canonical
text of a value means what the value means (`denotes_render`).
-/

namespace Switchboard.Json

open Decimal
open Text (encode)

/-! ## Text -/

variable {rest : Bytes}

/-- A digit is no blank. -/
theorem isBlankByte_digitByte (digit : Digit) : isBlankByte (digitByte digit) = false := by
  revert digit
  decide

/-- A number begins with a byte that is no blank. -/
theorem exists_text_eq_cons (literal : Literal) :
    ∃ b after, literal.text = b :: after ∧ isBlankByte b = false := by
  obtain ⟨negative, whole, places, scale, ne_nil, no_leading_zero⟩ := literal
  obtain ⟨digit, others, rfl⟩ := List.exists_cons_of_ne_nil ne_nil
  cases negative with
  | true => exact ⟨_, _, rfl, rfl⟩
  | false => exact ⟨_, _, rfl, isBlankByte_digitByte digit⟩

/-- The text of a number spells it. -/
theorem spells_number (literal : Literal) :
    Spells IsText (literal.text ++ rest) (.number literal) rest := by
  obtain ⟨b, after, text, solid⟩ := exists_text_eq_cons literal
  refine .number ?_
  rw [text]
  exact skipBlanks_cons solid _

/-- A byte that is no blank is the next one where it stands. -/
theorem next_cons {b : UInt8} (solid : isBlankByte b = false) : Next (b :: rest) b rest :=
  skipBlanks_cons solid rest

mutual

/-- The characters of a value's text. -/
def Value.chars : Value → List Char
  | .null => ['n', 'u', 'l', 'l']
  | .bool true => ['t', 'r', 'u', 'e']
  | .bool false => ['f', 'a', 'l', 's', 'e']
  | .integer value => (toString value).toList
  | .float value => value.compactText.toList
  | .string text => quotedChars text
  | .array items => '[' :: (itemChars true items ++ [']'])
  | .object members => '\x7b' :: (memberChars true members ++ ['\x7d'])

def itemChars (first : Bool) : List Value → List Char
  | [] => []
  | item :: rest => (if first then [] else [',']) ++ (item.chars ++ itemChars false rest)

def memberChars (first : Bool) : List (String × Value) → List Char
  | [] => []
  | (name, value) :: rest =>
    (if first then [] else [',']) ++
      (quotedChars name ++ ':' :: (value.chars ++ memberChars false rest))

end

mutual

/-- What is written for a value are its characters. -/
theorem toList_write (out : String) :
    ∀ value : Value, (value.write out).toList = out.toList ++ value.chars
  | .null => by simp [Value.write, Value.chars]
  | .bool true => by simp [Value.write, Value.chars]
  | .bool false => by simp [Value.write, Value.chars]
  | .integer value => by simp [Value.write, Value.chars]
  | .float value => by simp [Value.write, Value.chars]
  | .string text => toList_writeString out text
  | .array items => by
    simp [Value.write, Value.chars, toList_writeItems _ true items]
  | .object members => by
    simp [Value.write, Value.chars, toList_writeMembers _ true members]

/-- The same for the items of an array. -/
theorem toList_writeItems (out : String) (first : Bool) :
    ∀ items : List Value, (writeItems out first items).toList = out.toList ++ itemChars first items
  | [] => by simp [writeItems, itemChars]
  | item :: others => by
    rw [writeItems, itemChars, toList_writeItems _ false others, toList_write _ item]
    cases first <;> simp

/-- The same for the members of an object. -/
theorem toList_writeMembers (out : String) (first : Bool) :
    ∀ members : List (String × Value),
      (writeMembers out first members).toList = out.toList ++ memberChars first members
  | [] => by simp [writeMembers, memberChars]
  | (name, value) :: others => by
    rw [writeMembers, memberChars, toList_writeMembers _ false others, toList_write _ value]
    cases first <;> simp [toList_writeString]

end

/-! ## Terms -/

mutual

/-- The bytes of a term without blanks, its strings written with as few escapes as may be. -/
def Term.compact : Term String → Bytes
  | .null => encode ['n', 'u', 'l', 'l']
  | .bool true => encode ['t', 'r', 'u', 'e']
  | .bool false => encode ['f', 'a', 'l', 's', 'e']
  | .number literal => literal.text
  | .string content => encode (quotedChars content)
  | .array items => 0x5b :: (compactItems true items ++ [0x5d])
  | .object members => 0x7b :: (compactMembers true members ++ [0x7d])

def compactItems (first : Bool) : List (Term String) → Bytes
  | [] => []
  | item :: rest => (if first then [] else [0x2c]) ++ (item.compact ++ compactItems false rest)

def compactMembers (first : Bool) : List (String × Term String) → Bytes
  | [] => []
  | (name, value) :: rest =>
    (if first then [] else [0x2c]) ++
      (encode (quotedChars name) ++ 0x3a :: (value.compact ++ compactMembers false rest))

end

/-- The comma before an item as a byte. -/
theorem encode_comma (first : Bool) :
    encode (if first then [] else [',']) = if first then [] else [0x2c] := by
  cases first <;> rfl

mutual

/-- What is written for a value is compact. -/
theorem encode_chars : ∀ value : Value, encode value.chars = value.term.compact
  | .null | .bool true | .bool false | .string _ => rfl
  | .integer value => encode_toString value
  | .float value => encode_compactText value
  | .array items => by
    rw [Value.chars, encode_cons_of_lt (by decide), Text.encode_append, encode_itemChars]
    rfl
  | .object members => by
    rw [Value.chars, encode_cons_of_lt (by decide), Text.encode_append, encode_memberChars]
    rfl

/-- The bytes of the items are those of their terms. -/
theorem encode_itemChars : ∀ (items : List Value) (first : Bool),
    encode (itemChars first items) = compactItems first (itemTerms items)
  | [], first => rfl
  | item :: others, first => by
    rw [itemChars, Text.encode_append, Text.encode_append, encode_comma, encode_chars item,
      encode_itemChars others, itemTerms, compactItems]

/-- The bytes of the members are those of their terms. -/
theorem encode_memberChars : ∀ (members : List (String × Value)) (first : Bool),
    encode (memberChars first members) = compactMembers first (memberTerms members)
  | [], first => rfl
  | (name, value) :: others, first => by
    rw [memberChars, Text.encode_append, Text.encode_append, encode_cons_of_lt (by decide),
      Text.encode_append, encode_comma, encode_chars value, encode_memberChars others, memberTerms,
      compactMembers]
    rfl

end

/-- What stands before the first item or member, or before a later one. -/
theorem between_comma (first : Bool) (bytes : Bytes) :
    Between first ((if first then [] else [0x2c]) ++ bytes) bytes := by
  cases first with
  | true => rfl
  | false => exact next_cons rfl

mutual

/-- The compact text of a term spells it. -/
theorem spells_compact : ∀ (term : Term String) (rest : Bytes),
    Spells IsText (term.compact ++ rest) term rest
  | .null, rest => .null (skipBlanks_cons rfl _)
  | .bool true, rest => .true (skipBlanks_cons rfl _)
  | .bool false, rest => .false (skipBlanks_cons rfl _)
  | .number literal, rest => spells_number literal
  | .string text, rest => by
    rw [Term.compact, encode_quotedChars]
    exact .string (next_cons rfl) (quoted_escaped _)
  | .array items, rest => by
    rw [Term.compact, List.cons_append, List.append_assoc]
    exact .array (next_cons rfl) (items_compact items true rest)
  | .object members, rest => by
    rw [Term.compact, List.cons_append, List.append_assoc]
    exact .object (next_cons rfl) (members_compact members true rest)

/-- So do the compact texts of items. -/
theorem items_compact : ∀ (items : List (Term String)) (first : Bool) (rest : Bytes),
    Items (Spells IsText) first (compactItems first items ++ 0x5d :: rest) items rest
  | [], first, rest => .done (next_cons rfl)
  | item :: others, first, rest => by
    rw [compactItems, List.append_assoc, List.append_assoc]
    exact .next (between_comma first _) (spells_compact item _) (items_compact others false rest)

/-- So do the compact texts of members. -/
theorem members_compact : ∀ (members : List (String × Term String)) (first : Bool) (rest : Bytes),
    Members IsText (Spells IsText) first (compactMembers first members ++ 0x7d :: rest) members rest
  | [], first, rest => .done (next_cons rfl)
  | (name, value) :: others, first, rest => by
    rw [compactMembers, List.append_assoc, List.append_assoc, List.cons_append,
      List.append_assoc, encode_quotedChars]
    exact .next (between_comma first _) (next_cons rfl) (quoted_escaped _) (next_cons rfl)
      (spells_compact value _) (members_compact others false rest)

end

/-- What is written for a value spells its term. -/
theorem spells_chars (value : Value) (rest : Bytes) :
    Spells IsText (encode value.chars ++ rest) value.term rest := by
  rw [encode_chars]
  exact spells_compact value.term rest

/-! ## Canonical values -/

/-- What a name means is what the last member of that name means. -/
theorem memberMeaning_eq_map (members : List (String × Term String)) (name : String) :
    memberMeaning members name = (lastOf? name members).map Term.meaning := by
  induction members with
  | nil => rfl
  | cons member others ih =>
    rw [memberMeaning, lastOf?, ih, Option.map_or]
    split <;> rfl

/-- The items of an array are made canonical one by one. -/
theorem canonicalItems_eq_append (items done : List Value) :
    canonicalItems items done = done.reverse ++ items.map Value.canonical := by
  induction items generalizing done with
  | nil => rw [canonicalItems, List.map_nil, List.append_nil]
  | cons item others ih => simp [canonicalItems, ih]

/-- So are the values of members. -/
theorem canonicalValues_eq_append (members done : List (String × Value)) :
    canonicalValues members done =
      done.reverse ++ members.map fun member => (member.1, member.2.canonical) := by
  induction members generalizing done with
  | nil => rw [canonicalValues, List.map_nil, List.append_nil]
  | cons member others ih => simp [canonicalValues, ih]

/-- An array is canonical item by item. -/
theorem canonical_array (items : List Value) :
    (Value.array items).canonical = .array (items.map Value.canonical) := by
  rw [Value.canonical, canonicalItems_eq_append]
  rfl

/-- An object is canonical with canonical values and its members in order. -/
theorem canonical_object (members : List (String × Value)) :
    (Value.object members).canonical =
      .object (canonicalMembers (members.map fun member => (member.1, member.2.canonical))) := by
  rw [Value.canonical, canonicalValues_eq_append]
  rfl

/-- A value means what its canonical form means. -/
theorem meaning_canonical (value : Value) : value.canonical.term.meaning = value.term.meaning := by
  induction value using Value.induction with
  | null | bool | integer | float | string => rfl
  | array items ih =>
    rw [canonical_array, Value.term, Term.meaning, Value.term, Term.meaning]
    simpa [meanings_eq_map, itemTerms_eq_map] using ih
  | object members ih =>
    rw [canonical_object, Value.term, Term.meaning, Value.term, Term.meaning]
    refine congrArg Meaning.object (funext fun name => ?_)
    rw [memberMeaning_eq_map, memberMeaning_eq_map, memberTerms_eq_map, memberTerms_eq_map,
      lastOf?_map, lastOf?_map, lastOf?_canonicalMembers, lastOf?_map]
    cases last : lastOf? name members with
    | none => rfl
    | some value => exact congrArg some (ih _ (mem_of_lastOf? last))

/-- The rendered text of a value is the compact text of its term. -/
theorem toList_renderInOrder (value : Value) :
    value.renderInOrder.toUTF8.toList = value.term.compact := by
  rw [Value.renderInOrder, Text.toList_toUTF8, toList_write, ← encode_chars]
  rfl

/-- The canonical text of a value is a JSON text that means what the value means. -/
theorem denotes_render (value : Value) :
    Denotes value.render.toUTF8.toList value.term.meaning := by
  refine ⟨value.canonical.term, ?_, meaning_canonical value⟩
  have spells := spells_compact value.canonical.term []
  rwa [List.append_nil, ← toList_renderInOrder] at spells

end Switchboard.Json
