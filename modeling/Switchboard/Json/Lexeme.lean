import Switchboard.Decimal.Binary64
import Switchboard.Decimal.Integer
import Switchboard.Json.Fault
import Switchboard.Text.Unfinished

/-!
# Lexemes of JSON

Blanks, literals, numbers and strings, read off the front of the bytes that are left.

A number with a fraction or an exponent is not rounded once from its exact value: its digits, as
many as fit 64 bits, become a binary64 number, which is then multiplied or divided by a power of
ten.
-/

namespace Switchboard.Json

open Decimal

/-- The blanks that may stand between tokens. -/
def isBlankByte (b : UInt8) : Bool := b == 0x20 || b == 0x0a || b == 0x09 || b == 0x0d

/-- The bytes from the next token on. -/
def skipBlanks (bytes : Bytes) : Bytes := bytes.dropWhile isBlankByte

/-- Reads what is left of a literal after its first letter. -/
def readLiteral {α : Type} (value : α) : List Char → Bytes → Outcome α
  | [], rest => .ok (value, rest)
  | _ :: _, [] => failAt .endInValue []
  | c :: letters, b :: rest =>
    if b.toNat == c.toNat then readLiteral value letters rest else failAt .expectedIdent rest

/-- The value of a decimal digit. -/
def digit? (b : UInt8) : Option Nat :=
  if 0x30 ≤ b && b ≤ 0x39 then some (b.toNat - 0x30) else none

/-- Whether a byte is a decimal digit. -/
def isDigitByte (b : UInt8) : Bool := (digit? b).isSome

/-- Whether the next byte is a digit. -/
def startsWithDigit : Bytes → Bool
  | b :: _ => isDigitByte b
  | [] => false

/-- Whether the next byte marks an exponent. -/
def startsWithExponent : Bytes → Bool
  | b :: _ => b == 0x65 || b == 0x45
  | [] => false

/-- Reads digits as long as the number stays below `limit`, and counts them. -/
def readDigits (limit : Nat) (value count : Nat) : Bytes → Nat × Nat × Bytes
  | [] => (value, count, [])
  | b :: rest =>
    match digit? b with
    | none => (value, count, b :: rest)
    | some digit =>
      if value * 10 + digit < limit then readDigits limit (value * 10 + digit) (count + 1) rest
      else (value, count, b :: rest)

/-- A number as it is read. -/
inductive Number where
  | integer (value : Int)
  | float (value : Binary64)
deriving DecidableEq, Repr

/-- The largest power of ten that a number is scaled by at once. -/
def scaleStep : Nat := 308

/-- The magnitude `value * 10^exponent`, scaled in rounded steps; `none` if it is too large. A
number that is divided more than a few times is zero, so `fuel` need not be large. -/
def scaleDecimal? : Nat → Binary64 → Int → Option Binary64
  | 0, value, _ => some value
  | fuel + 1, value, exponent =>
    if exponent.natAbs ≤ scaleStep then do
      let power ← Binary64.ofNat? (Nat.pow 10 exponent.natAbs)
      if 0 ≤ exponent then value.mul? power else value.div? power
    else if value.isZero then some value
    else if 0 ≤ exponent then none
    else do
      let power ← Binary64.ofNat? (Nat.pow 10 scaleStep)
      scaleDecimal? fuel (← value.div? power) (exponent + scaleStep)

/-- The number `± digits * 10^exponent`, ended before `rest`. -/
def finishFloat (positive : Bool) (digits : Nat) (exponent : Int) (rest : Bytes) :
    Outcome Number :=
  match (Binary64.ofNat? digits).bind fun value => scaleDecimal? 8 value exponent with
  | some value => .ok (.float { value with negative := !positive }, rest)
  | none => failAt .numberOutOfRange rest

/-- The largest exponent that is told apart from a larger one. -/
def exponentLimit : Nat := 0x80000000

/-- Adds a written exponent to the one that the digits give, within 32 bits. -/
def addExponent (exponent : Int) (positive : Bool) (written : Nat) : Int :=
  if positive then min (exponent + written) (exponentLimit - 1)
  else max (exponent - written) (-exponentLimit)

/-- Reads an exponent after its mark. -/
def readExponent (positive : Bool) (digits : Nat) (exponent : Int) (bytes : Bytes) :
    Outcome Number :=
  let (upward, bytes) := match bytes with
    | 0x2b :: rest => (true, rest)
    | 0x2d :: rest => (false, rest)
    | rest => (true, rest)
  match bytes with
  | [] => failAt .endInValue []
  | b :: rest =>
    if !isDigitByte b then failAt .invalidNumber rest
    else
      let (written, _, rest) := readDigits exponentLimit 0 0 (b :: rest)
      if startsWithDigit rest then
        if digits != 0 && upward then failAt .numberOutOfRange rest.tail
        else .ok (.float (.zero !positive), rest.dropWhile isDigitByte)
      else finishFloat positive digits (addExponent exponent upward written) rest

/-- Reads on after the digits of a number that has a fraction or is too long. -/
def readScaled (positive : Bool) (digits : Nat) (exponent : Int) (bytes : Bytes) :
    Outcome Number :=
  if startsWithExponent bytes then readExponent positive digits exponent bytes.tail
  else finishFloat positive digits exponent bytes

/-- Reads a fraction after its point. -/
def readFraction (positive : Bool) (digits : Nat) (exponent : Int) (bytes : Bytes) :
    Outcome Number :=
  let (value, count, rest) := readDigits UInt64.size digits 0 bytes
  let exponent := exponent - count
  if startsWithDigit rest then
    readScaled positive value exponent (rest.dropWhile isDigitByte)
  else if count == 0 then
    match rest with
    | [] => failAt .endInValue []
    | _ => failPast .invalidNumber rest
  else readScaled positive value exponent rest

/-- A number without fraction and exponent: an integer if it fits 64 bits. Negative zero is not an
integer. -/
def wholeNumber (positive : Bool) (digits : Nat) (rest : Bytes) : Outcome Number :=
  if positive then .ok (.integer digits, rest)
  else if digits != 0 && digits ≤ int64Bound then .ok (.integer (-digits), rest)
  else finishFloat false digits 0 rest

/-- Reads on after the integer digits of a number. -/
def readAfterInteger (positive : Bool) (digits : Nat) (bytes : Bytes) : Outcome Number :=
  match bytes with
  | 0x2e :: rest => readFraction positive digits 0 rest
  | _ =>
    if startsWithExponent bytes then readExponent positive digits 0 bytes.tail
    else wholeNumber positive digits bytes

/-- Reads on after integer digits that exceed 64 bits: those that follow only raise the exponent. -/
def readLongInteger (positive : Bool) (digits : Nat) (bytes : Bytes) : Outcome Number :=
  let exponent : Int := (bytes.takeWhile isDigitByte).length
  match bytes.dropWhile isDigitByte with
  | 0x2e :: rest => readFraction positive digits exponent rest
  | rest => readScaled positive digits exponent rest

/-- Reads a number from its first digit on. -/
def readNumber (positive : Bool) (bytes : Bytes) : Outcome Number :=
  match bytes with
  | [] => failAt .endInValue []
  | 0x30 :: rest =>
    if startsWithDigit rest then failPast .invalidNumber rest
    else readAfterInteger positive 0 rest
  | b :: rest =>
    if !isDigitByte b then failAt .invalidNumber rest
    else
      let (value, _, rest) := readDigits UInt64.size 0 0 (b :: rest)
      if startsWithDigit rest then readLongInteger positive value rest
      else readAfterInteger positive value rest

/-- The value of a hexadecimal digit. -/
def hexValue? (b : UInt8) : Option Nat :=
  if 0x30 ≤ b && b ≤ 0x39 then some (b.toNat - 0x30)
  else if 0x41 ≤ b && b ≤ 0x46 then some (b.toNat - 0x41 + 10)
  else if 0x61 ≤ b && b ≤ 0x66 then some (b.toNat - 0x61 + 10)
  else none

/-- Reads four hexadecimal digits. -/
def readHex4 : Bytes → Outcome Nat
  | a :: b :: c :: d :: rest =>
    match hexValue? a, hexValue? b, hexValue? c, hexValue? d with
    | some a, some b, some c, some d => .ok (((a * 16 + b) * 16 + c) * 16 + d, rest)
    | _, _, _, _ => failAt .invalidEscape rest
  | _ => failAt .endInString []

/-- Reads one given byte of the second half of a surrogate pair. -/
def expectEscapeByte (byte : UInt8) : Bytes → Except Failure Bytes
  | [] => failAt .endInString []
  | b :: rest => if b == byte then .ok rest else failAt .unexpectedEndOfEscape rest

/-- Reads a code point escape after `\u`; beyond the basic plane it takes two. -/
def readCodePoint (bytes : Bytes) : Except Failure (Char × Bytes) := do
  let (high, rest) ← readHex4 bytes
  if 0xdc00 ≤ high && high ≤ 0xdfff then failAt .loneSurrogate rest
  else if high < 0xd800 || 0xdbff < high then .ok (Char.ofNat high, rest)
  else
    let rest ← expectEscapeByte 0x5c rest
    let rest ← expectEscapeByte 0x75 rest
    let (low, rest) ← readHex4 rest
    if low < 0xdc00 || 0xdfff < low then failAt .loneSurrogate rest
    else .ok (Char.ofNat ((high - 0xd800) * 0x400 + (low - 0xdc00) + 0x10000), rest)

/-- The character that a letter after a backslash stands for. -/
def simpleEscape? (b : UInt8) : Option Char :=
  if b == 0x22 then some '"'
  else if b == 0x5c then some '\\'
  else if b == 0x2f then some '/'
  else if b == 0x62 then some '\x08'
  else if b == 0x66 then some '\x0c'
  else if b == 0x6e then some '\n'
  else if b == 0x72 then some '\r'
  else if b == 0x74 then some '\t'
  else none

/-- Reads an escape after its backslash. -/
def readEscape : Bytes → Outcome Char
  | [] => failAt .endInString []
  | b :: rest =>
    match simpleEscape? b with
    | some c => .ok (c, rest)
    | none => if b == 0x75 then readCodePoint rest else failAt .invalidEscape rest

/-- Reads the bytes of a string after its opening quote, at most `bound` bytes and escapes of it.
The bytes so far, with escapes replaced, are in `done`, the last first. -/
def readStringOnto : Nat → Bytes → Bytes → Except Failure (Bytes × Bytes)
  | 0, _, rest => failAt .endInString rest
  | _ + 1, _, [] => failAt .endInString []
  | bound + 1, done, b :: rest =>
    if b == 0x22 then .ok (done.reverse, rest)
    else if b == 0x5c then do
      let (c, rest) ← readEscape rest
      readStringOnto bound ((String.utf8EncodeChar c).reverse ++ done) rest
    else if b < 0x20 then failAt .controlCharacter rest
    else readStringOnto bound (b :: done) rest

/-- Where bytes that are no text are reported: before the closing quote and `rest` by as many bytes
as follow the longest part that is text, counted with escapes replaced. -/
def badTextPosition (bytes rest text : Bytes) : Bytes :=
  bytes.drop (bytes.length - rest.length - (text.length - Text.textLength text))

/-- Reads a string after its opening quote. -/
def readString (bound : Nat) (bytes : Bytes) : Except Failure (String × Bytes) := do
  let (text, rest) ← readStringOnto bound [] bytes
  match String.fromUTF8? text.toByteArray with
  | some text => .ok (text, rest)
  | none => failAt .invalidCodePoint (badTextPosition bytes rest text)

end Switchboard.Json
