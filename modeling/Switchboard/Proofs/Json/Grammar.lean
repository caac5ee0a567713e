import Mathlib.Algebra.Field.Rat
import Switchboard.Json.Reader
import Switchboard.Proofs.Text.Utf8

/-!
# The grammar of JSON texts

What a JSON text is, apart from how it is read: `Spells text bytes term rest` says that a term is
spelled by the bytes up to `rest`. A term keeps numbers as they are written and members in the order
in which they are written; its meaning has exact rational numbers and objects that are maps, where
of members that share a name the last counts. The grammar of strings is a parameter, since values
that nobody looks at may hold strings that are no text.
-/

namespace Switchboard.Json

open Text (encode)

/-! ## Numbers -/

/-- A decimal digit. -/
abbrev Digit := Fin 10

/-- Numerals stand for digits. -/
instance neZero_ten : NeZero 10 := ⟨Nat.succ_ne_zero 9⟩

def digitByte (digit : Digit) : UInt8 := .ofNat (0x30 + digit.val)

/-- The bytes of digits. -/
def spelled (digits : List Digit) : Bytes := digits.map digitByte

/-- The number that digits spell after the digits of `start`. -/
def valueFrom (start : Nat) (digits : List Digit) : Nat :=
  digits.foldl (fun value digit => value * 10 + digit.val) start

/-- The sign of an exponent as it is written. -/
inductive Sign where
  | unwritten
  | plus
  | minus
deriving DecidableEq

def Sign.upward : Sign → Bool
  | .minus => false
  | _ => true

def Sign.text : Sign → Bytes
  | .unwritten => []
  | .plus => [0x2b]
  | .minus => [0x2d]

/-- An exponent as it is written. -/
structure Scale where
  capital : Bool
  sign : Sign
  digits : List Digit
  ne_nil : digits ≠ []

def Scale.text (scale : Scale) : Bytes :=
  (if scale.capital then 0x45 else 0x65) :: (scale.sign.text ++ spelled scale.digits)

def Scale.value (scale : Scale) : ℤ :=
  if scale.sign.upward then valueFrom 0 scale.digits else -valueFrom 0 scale.digits

/-- A number as it is written. Without decimal places there is no point. -/
structure Literal where
  negative : Bool
  whole : List Digit
  places : List Digit
  scale : Option Scale
  ne_nil : whole ≠ []
  no_leading_zero : whole.head? = some 0 → whole = [0]

/-- The bytes of a point and decimal places. -/
def pointed : List Digit → Bytes
  | [] => []
  | places => 0x2e :: spelled places

/-- The bytes of an exponent, if there is one. -/
def scaled (scale : Option Scale) : Bytes := (scale.map Scale.text).getD []

namespace Literal

/-- The text of a number but for its sign. -/
def magnitude (literal : Literal) : Bytes :=
  spelled literal.whole ++ (pointed literal.places ++ scaled literal.scale)

def text (literal : Literal) : Bytes :=
  if literal.negative then 0x2d :: literal.magnitude else literal.magnitude

/-- The exact value of a number. -/
def value (literal : Literal) : ℚ :=
  (if literal.negative then -1 else 1) * valueFrom 0 (literal.whole ++ literal.places) *
    10 ^ ((literal.scale.map Scale.value).getD 0 - literal.places.length)

end Literal

/-! ## Terms and what they mean -/

/-- What a JSON text spells, with strings of some kind. -/
inductive Term (σ : Type) where
  | null
  | bool (value : Bool)
  | number (literal : Literal)
  | string (content : σ)
  | array (items : List (Term σ))
  | object (members : List (σ × Term σ))

/-- What a JSON text denotes. -/
inductive Meaning where
  | null
  | bool (value : Bool)
  | number (value : ℚ)
  | string (content : String)
  | array (items : List Meaning)
  | object (member? : String → Option Meaning)

mutual

def Term.meaning : Term String → Meaning
  | .null => .null
  | .bool value => .bool value
  | .number literal => .number literal.value
  | .string content => .string content
  | .array items => .array (meanings items)
  | .object members => .object (memberMeaning members)

def meanings : List (Term String) → List Meaning
  | [] => []
  | item :: rest => item.meaning :: meanings rest

/-- The meaning of the last member of a name. -/
def memberMeaning : List (String × Term String) → String → Option Meaning
  | [], _ => none
  | (other, value) :: rest, name =>
    (memberMeaning rest name).or (if other = name then some value.meaning else none)

end

/-! ## Texts -/

/-- The next byte that is no blank. -/
def Next (bytes : Bytes) (b : UInt8) (rest : Bytes) : Prop := skipBlanks bytes = b :: rest

/-- What stands before an item or a member: a comma, unless it is the first. -/
def Between (first : Bool) (bytes behind : Bytes) : Prop :=
  if first then behind = bytes else Next bytes 0x2c behind

/-- Items up to the end of their array. -/
inductive Items {α : Type} (item : Bytes → α → Bytes → Prop) :
    (first : Bool) → Bytes → List α → Bytes → Prop where
  | done {first : Bool} {bytes rest : Bytes} (close : Next bytes 0x5d rest) :
      Items item first bytes [] rest
  | next {first : Bool} {bytes behind after rest : Bytes} {value : α} {values : List α}
      (between : Between first bytes behind) (head : item behind value after)
      (tail : Items item false after values rest) : Items item first bytes (value :: values) rest

/-- Members up to the end of their object. -/
inductive Members {ν α : Type} (name : Bytes → ν → Bytes → Prop)
    (value : Bytes → α → Bytes → Prop) :
    (first : Bool) → Bytes → List (ν × α) → Bytes → Prop where
  | done {first : Bool} {bytes rest : Bytes} (close : Next bytes 0x7d rest) :
      Members name value first bytes [] rest
  | next {first : Bool} {bytes behind opened named valued after rest : Bytes} {key : ν}
      {content : α} {members : List (ν × α)} (between : Between first bytes behind)
      (quote : Next behind 0x22 opened) (spellsName : name opened key named)
      (colon : Next named 0x3a valued) (head : value valued content after)
      (tail : Members name value false after members rest) :
      Members name value first bytes ((key, content) :: members) rest

/-- A term is spelled by bytes up to `rest`; `text` says what a string is after its opening
quote. -/
inductive Spells {σ : Type} (text : Bytes → σ → Bytes → Prop) : Bytes → Term σ → Bytes → Prop where
  | null {bytes rest : Bytes} (word : skipBlanks bytes = encode ['n', 'u', 'l', 'l'] ++ rest) :
      Spells text bytes .null rest
  | true {bytes rest : Bytes} (word : skipBlanks bytes = encode ['t', 'r', 'u', 'e'] ++ rest) :
      Spells text bytes (.bool true) rest
  | false {bytes rest : Bytes}
      (word : skipBlanks bytes = encode ['f', 'a', 'l', 's', 'e'] ++ rest) :
      Spells text bytes (.bool false) rest
  | number {bytes rest : Bytes} {literal : Literal}
      (digits : skipBlanks bytes = literal.text ++ rest) :
      Spells text bytes (.number literal) rest
  | string {bytes opened rest : Bytes} {content : σ} (quote : Next bytes 0x22 opened)
      (inside : text opened content rest) : Spells text bytes (.string content) rest
  | array {bytes opened rest : Bytes} {items : List (Term σ)} (bracket : Next bytes 0x5b opened)
      (inside : Items (Spells text) true opened items rest) : Spells text bytes (.array items) rest
  | object {bytes opened rest : Bytes} {members : List (σ × Term σ)}
      (brace : Next bytes 0x7b opened)
      (inside : Members text (Spells text) true opened members rest) :
      Spells text bytes (.object members) rest

/-! ## Strings -/

/-- Four hexadecimal digits. -/
inductive Hex4 : Bytes → Nat → Bytes → Prop where
  | digits {a b c d : UInt8} {i j k l : Nat} {rest : Bytes} (first : hexValue? a = some i)
      (second : hexValue? b = some j) (third : hexValue? c = some k)
      (fourth : hexValue? d = some l) :
      Hex4 (a :: b :: c :: d :: rest) (((i * 16 + j) * 16 + k) * 16 + l) rest

/-- What may follow a backslash, and the character that it stands for. -/
inductive Escape : Bytes → Char → Bytes → Prop where
  | letter {b : UInt8} {c : Char} {rest : Bytes} (means : simpleEscape? b = some c) :
      Escape (b :: rest) c rest
  | point {bytes rest : Bytes} {n : Nat} (hex : Hex4 bytes n rest)
      (single : n < 0xd800 ∨ 0xdfff < n) : Escape (0x75 :: bytes) (.ofNat n) rest
  | pair {bytes middle rest : Bytes} {high low : Nat}
      (first : Hex4 bytes high (0x5c :: 0x75 :: middle))
      (isHigh : 0xd800 ≤ high ∧ high ≤ 0xdbff) (second : Hex4 middle low rest)
      (isLow : 0xdc00 ≤ low ∧ low ≤ 0xdfff) :
      Escape (0x75 :: bytes) (.ofNat ((high - 0xd800) * 0x400 + (low - 0xdc00) + 0x10000)) rest

/-- A byte that stands for itself in a string. -/
def IsPlain (b : UInt8) : Prop := b ≠ 0x22 ∧ b ≠ 0x5c ∧ 0x20 ≤ b

/-- What follows the opening quote of a string, and the bytes that it stands for. -/
inductive Quoted : Bytes → Bytes → Bytes → Prop where
  | close {rest : Bytes} : Quoted (0x22 :: rest) [] rest
  | plain {b : UInt8} {bytes content rest : Bytes} (isPlain : IsPlain b)
      (tail : Quoted bytes content rest) : Quoted (b :: bytes) (b :: content) rest
  | escape {bytes after content rest : Bytes} {c : Char} (means : Escape bytes c after)
      (tail : Quoted after content rest) :
      Quoted (0x5c :: bytes) (String.utf8EncodeChar c ++ content) rest

/-- A string that is a text. -/
def IsText (bytes : Bytes) (content : String) (rest : Bytes) : Prop :=
  Quoted bytes (encode content.toList) rest

/-- A string whose content does not matter: its escapes need not be characters. -/
inductive Loose : Bytes → Unit → Bytes → Prop where
  | close {rest : Bytes} : Loose (0x22 :: rest) () rest
  | plain {b : UInt8} {bytes rest : Bytes} (isPlain : IsPlain b) (tail : Loose bytes () rest) :
      Loose (b :: bytes) () rest
  | letter {b : UInt8} {bytes rest : Bytes} (known : (simpleEscape? b).isSome = true)
      (tail : Loose bytes () rest) : Loose (0x5c :: b :: bytes) () rest
  | point {bytes after rest : Bytes} {n : Nat} (hex : Hex4 bytes n after)
      (tail : Loose after () rest) : Loose (0x5c :: 0x75 :: bytes) () rest

/-- A whole text is JSON and denotes a value. -/
def Denotes (text : Bytes) (meaning : Meaning) : Prop :=
  ∃ term, Spells IsText text term [] ∧ term.meaning = meaning

end Switchboard.Json
