import Switchboard.Decimal.Integer
import Switchboard.Toml.Value

/-!
# TOML scalars

Strings, numbers, truth values and date-times, read off the front of the characters that are left. A
reader gives what it has read and the characters after it.
-/

namespace Switchboard.Toml

open Decimal

/-! ## Characters -/

/-- The blanks within a line. -/
def isSpace (c : Char) : Bool := c == ' ' || c == '\t'

/-- The characters from the next one on that is not a blank. -/
def skipSpaces (chars : List Char) : List Char := chars.dropWhile isSpace

/-- Whether a character may stand for itself in strings and comments: any but the ASCII controls. -/
def isPlain (c : Char) : Bool := c == '\t' || (' ' ≤ c && c != '\x7f')

/-- Passes the end of a line. -/
def newline? : List Char → Option (List Char)
  | '\n' :: rest => some rest
  | '\r' :: '\n' :: rest => some rest
  | _ => none

/-- Passes a given character. -/
def expect? (c : Char) : List Char → Option (List Char)
  | [] => none
  | d :: rest => if d == c then some rest else none

/-- Passes given characters. -/
def expectAll? : List Char → List Char → Option (List Char)
  | [], rest => some rest
  | c :: word, chars => (expect? c chars).bind (expectAll? word)

/-- The value of a digit in a base up to sixteen. -/
def digitIn? (base : Nat) (c : Char) : Option Nat :=
  let value :=
    if '0' ≤ c && c ≤ '9' then c.toNat - '0'.toNat
    else if 'a' ≤ c && c ≤ 'f' then c.toNat - 'a'.toNat + 10
    else if 'A' ≤ c && c ≤ 'F' then c.toNat - 'A'.toNat + 10
    else base
  if value < base then some value else none

/-- The number that digits spell. -/
def numeral (base : Nat) (digits : List Nat) : Nat := digits.foldl (fun n d => n * base + d) 0

/-! ## Strings -/

/-- Reads a code point of so many hexadecimal digits. -/
def readCodePoint (count : Nat) (chars : List Char) : Option (Char × List Char) := do
  let digits ← (chars.take count).mapM (digitIn? 16)
  if digits.length == count then
    let code := numeral 16 digits
    if code < 0xd800 || (0xdfff < code && code < 0x110000) then
      some (Char.ofNat code, chars.drop count)
    else none
  else none

/-- Reads an escape after its backslash. -/
def readEscape : List Char → Option (Char × List Char)
  | 'b' :: rest => some ('\x08', rest)
  | 't' :: rest => some ('\t', rest)
  | 'n' :: rest => some ('\n', rest)
  | 'f' :: rest => some ('\x0c', rest)
  | 'r' :: rest => some ('\r', rest)
  | '"' :: rest => some ('"', rest)
  | '\\' :: rest => some ('\\', rest)
  | 'u' :: rest => readCodePoint 4 rest
  | 'U' :: rest => readCodePoint 8 rest
  | _ => none

/-- Reads a string with escapes on one line, after its opening quote; `done` holds its characters so
far, the last first. -/
def readBasicOnto : Nat → List Char → List Char → Option (String × List Char)
  | 0, _, _ => none
  | _ + 1, _, [] => none
  | bound + 1, done, c :: rest =>
    if c == '"' then some (String.ofList done.reverse, rest)
    else if c == '\\' then do
      let (escaped, rest) ← readEscape rest
      readBasicOnto bound (escaped :: done) rest
    else if isPlain c then readBasicOnto bound (c :: done) rest
    else none

/-- Reads a string with escapes on one line, after its opening quote. -/
def readBasic (chars : List Char) : Option (String × List Char) :=
  readBasicOnto (chars.length + 1) [] chars

/-- Reads a string without escapes on one line, after its opening quote. -/
def readLiteral (chars : List Char) : Option (String × List Char) :=
  let plain (c : Char) : Bool := c != '\'' && isPlain c
  (expect? '\'' (chars.dropWhile plain)).map fun rest =>
    (String.ofList (chars.takeWhile plain), rest)

/-- Skips blanks and line ends. -/
def skipLines : List Char → List Char
  | ' ' :: rest => skipLines rest
  | '\t' :: rest => skipLines rest
  | '\n' :: rest => skipLines rest
  | '\r' :: '\n' :: rest => skipLines rest
  | rest => rest

/-- Ends a string of several lines, after three closing quotes: up to two more belong to it. -/
def closeLines (quote : Char) (done chars : List Char) : String × List Char :=
  let more := (chars.take 2).takeWhile (· == quote)
  (String.ofList (done.reverse ++ more), chars.drop more.length)

/-- Reads a string of several lines after its opening quotes. A backslash at the end of a line skips
to the next character that is not a blank; every line end becomes a line feed. -/
def readLinesOnto (quote : Char) (escapes : Bool) :
    Nat → List Char → List Char → Option (String × List Char)
  | 0, _, _ => none
  | _ + 1, _, [] => none
  | bound + 1, done, c :: rest =>
    if c == quote then
      match expectAll? [quote, quote] rest with
      | some rest => some (closeLines quote done rest)
      | none => readLinesOnto quote escapes bound (c :: done) rest
    else if c == '\\' && escapes then
      match newline? (skipSpaces rest) with
      | some rest => readLinesOnto quote escapes bound done (skipLines rest)
      | none => do
        let (escaped, rest) ← readEscape rest
        readLinesOnto quote escapes bound (escaped :: done) rest
    else if isPlain c then readLinesOnto quote escapes bound (c :: done) rest
    else
      match newline? (c :: rest) with
      | some rest => readLinesOnto quote escapes bound ('\n' :: done) rest
      | none => none

/-- Reads a string of several lines after its opening quotes. A line end right after those is left
out. -/
def readLines (quote : Char) (escapes : Bool) (chars : List Char) : Option (String × List Char) :=
  readLinesOnto quote escapes (chars.length + 1) [] ((newline? chars).getD chars)

/-- Reads a string of any of the four kinds. -/
def readString : List Char → Option (String × List Char)
  | '"' :: '"' :: '"' :: rest => readLines '"' true rest
  | '"' :: rest => readBasic rest
  | '\'' :: '\'' :: '\'' :: rest => readLines '\'' false rest
  | '\'' :: rest => readLiteral rest
  | _ => none

/-! ## Numbers -/

/-- Whether the next character is a digit. -/
def startsWithDigit (base : Nat) : List Char → Bool
  | c :: _ => (digitIn? base c).isSome
  | [] => false

/-- Takes the digits at the front, passing over each underscore between two of them. -/
def takeDigitsOnto (base : Nat) : List Nat → List Char → List Nat × List Char
  | done, [] => (done.reverse, [])
  | done, c :: rest =>
    match digitIn? base c with
    | some digit => takeDigitsOnto base (digit :: done) rest
    | none =>
      if c == '_' && !done.isEmpty && startsWithDigit base rest then takeDigitsOnto base done rest
      else (done.reverse, c :: rest)

/-- Reads one digit or more. -/
def readDigits (base : Nat) (chars : List Char) : Option (List Nat × List Char) :=
  match takeDigitsOnto base [] chars with
  | ([], _) => none
  | read => some read

/-- Reads the digits of a decimal integer, of which zero alone may start with a zero. -/
def readDecimalDigits : List Char → Option (List Nat × List Char)
  | '0' :: rest => some ([0], rest)
  | chars => readDigits 10 chars

/-- Reads a sign that may be missing: whether it is a minus. -/
def readSign : List Char → Bool × List Char
  | '+' :: rest => (false, rest)
  | '-' :: rest => (true, rest)
  | rest => (false, rest)

/-- The integer with a sign and a magnitude, if it fits 64 bits. -/
def integer? (negative : Bool) (magnitude : Nat) : Option Value :=
  if negative then
    if magnitude ≤ int64Bound then some (.integer (-(magnitude : Int))) else none
  else if magnitude < int64Bound then some (.integer magnitude)
  else none

/-- Decimal exponents beyond this are told apart from none. -/
def magnitudeLimit : Nat := 400

/-- The number `± digits * 10^exponent`. One too large is refused if it is positive. -/
def real? (negative : Bool) (digits : List Nat) (exponent : Int) : Option Value :=
  let significant := digits.dropWhile (· == 0)
  let point : Int := significant.length + exponent
  if significant.isEmpty || point < -magnitudeLimit then
    some (.real (.finite (.zero negative)))
  else
    let rounded :=
      if (magnitudeLimit : Int) < point then none
      else Binary64.ofDecimal? negative (numeral 10 significant) exponent
    match rounded with
    | some value => some (.real (.finite value))
    | none => if negative then some (.real (.infinite true)) else none

/-- Reads an exponent, if there is one. -/
def readExponent (chars : List Char) : Option (Option Int × List Char) :=
  match chars with
  | c :: rest =>
    if c == 'e' || c == 'E' then do
      let (negative, rest) := readSign rest
      let (digits, rest) ← readDigits 10 rest
      let magnitude : Int := numeral 10 digits
      some (some (if negative then -magnitude else magnitude), rest)
    else some (none, chars)
  | [] => some (none, [])

/-- Reads a decimal number. With a fraction or an exponent it is no integer. -/
def readDecimal (chars : List Char) : Option (Value × List Char) := do
  let (negative, rest) := readSign chars
  let (whole, rest) ← readDecimalDigits rest
  match rest with
  | '.' :: rest =>
    let (fraction, rest) ← readDigits 10 rest
    let (exponent, rest) ← readExponent rest
    let value ← real? negative (whole ++ fraction) (exponent.getD 0 - fraction.length)
    some (value, rest)
  | _ =>
    let (exponent, rest) ← readExponent rest
    match exponent with
    | some exponent => (real? negative whole exponent).map fun value => (value, rest)
    | none => (integer? negative (numeral 10 whole)).map fun value => (value, rest)

/-- Reads an infinity or the number that is none. -/
def readSpecial (chars : List Char) : Option (Value × List Char) :=
  let (negative, rest) := readSign chars
  match expectAll? ['i', 'n', 'f'] rest with
  | some rest => some (.real (.infinite negative), rest)
  | none => (expectAll? ['n', 'a', 'n'] rest).map fun rest => (.real .notANumber, rest)

/-- Reads the digits of an integer in another base. -/
def readInBase (base : Nat) (chars : List Char) : Option (Value × List Char) := do
  let (digits, rest) ← readDigits base chars
  let value ← integer? false (numeral base digits)
  some (value, rest)

/-- Reads a number. -/
def readNumber (chars : List Char) : Option (Value × List Char) :=
  match chars with
  | '0' :: 'x' :: rest => readInBase 16 rest
  | '0' :: 'o' :: rest => readInBase 8 rest
  | '0' :: 'b' :: rest => readInBase 2 rest
  | _ => (readSpecial chars).or (readDecimal chars)

/-! ## Date-times -/

/-- Reads a number of exactly so many digits that lies between bounds. -/
def readFixed (count low high : Nat) (chars : List Char) : Option (Nat × List Char) := do
  let digits ← (chars.take count).mapM digitValue?
  let value := numeral 10 digits
  if digits.length == count && low ≤ value && value ≤ high then some (value, chars.drop count)
  else none

/-- The number of days of a month. -/
def daysOf (year month : Nat) : Nat :=
  if month == 2 then
    if year % 4 == 0 && (year % 100 != 0 || year % 400 == 0) then 29 else 28
  else if month == 4 || month == 6 || month == 9 || month == 11 then 30
  else 31

/-- Passes a date. -/
def passDate (chars : List Char) : Option (List Char) := do
  let (year, rest) ← readFixed 4 0 9999 chars
  let rest ← expect? '-' rest
  let (month, rest) ← readFixed 2 1 12 rest
  let rest ← expect? '-' rest
  let (_, rest) ← readFixed 2 1 (daysOf year month) rest
  some rest

/-- Passes a fraction of a second, if there is one. -/
def passFraction (chars : List Char) : List Char :=
  match chars with
  | '.' :: c :: rest => if c.isDigit then rest.dropWhile Char.isDigit else chars
  | _ => chars

/-- Passes a time of day. The second may be a leap second. -/
def passTime (chars : List Char) : Option (List Char) := do
  let (_, rest) ← readFixed 2 0 23 chars
  let rest ← expect? ':' rest
  let (_, rest) ← readFixed 2 0 59 rest
  let rest ← expect? ':' rest
  let (_, rest) ← readFixed 2 0 60 rest
  some (passFraction rest)

/-- Passes hours and minutes. -/
def passHourMinute (chars : List Char) : Option (List Char) := do
  let (_, rest) ← readFixed 2 0 23 chars
  let rest ← expect? ':' rest
  let (_, rest) ← readFixed 2 0 59 rest
  some rest

/-- Passes an offset from universal time, if there is one. -/
def passOffset (chars : List Char) : List Char :=
  match chars with
  | 'Z' :: rest => rest
  | 'z' :: rest => rest
  | '+' :: rest => (passHourMinute rest).getD chars
  | '-' :: rest => (passHourMinute rest).getD chars
  | _ => chars

/-- Passes the time after a date, if there is one. -/
def passTimeOfDate (chars : List Char) : List Char :=
  match chars with
  | c :: rest =>
    if c == 'T' || c == 't' || c == ' ' then ((passTime rest).map passOffset).getD chars
    else chars
  | [] => []

/-- Passes a date-time, a date or a time of day. -/
def passDateTime (chars : List Char) : Option (List Char) :=
  match passDate chars with
  | some rest => some (passTimeOfDate rest)
  | none => passTime chars

/-! ## Any scalar -/

/-- Reads a scalar. -/
def readScalar (chars : List Char) : Option (Value × List Char) :=
  match chars with
  | '"' :: _ => (readString chars).map fun (text, rest) => (.string text, rest)
  | '\'' :: _ => (readString chars).map fun (text, rest) => (.string text, rest)
  | 't' :: rest => (expectAll? ['r', 'u', 'e'] rest).map fun rest => (.boolean true, rest)
  | 'f' :: rest => (expectAll? ['a', 'l', 's', 'e'] rest).map fun rest => (.boolean false, rest)
  | _ =>
    match passDateTime chars with
    | some rest => some (.dateTime, rest)
    | none => readNumber chars

end Switchboard.Toml
