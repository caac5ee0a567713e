/-!
# Decimal integers

Integers as settings, addresses and queries spell them: an optional sign and decimal digits, within
bounds. `readInteger` says why a text is none.
-/

namespace Switchboard.Decimal

/-- How many signed 64-bit integers are not negative. -/
def int64Bound : Nat := 0x8000000000000000

/-- The value of a decimal digit. -/
def digitValue? (c : Char) : Option Nat :=
  if c.isDigit then some (c.toNat - '0'.toNat) else none

/-- The number that a list of decimal digits spells, after the digits of `acc`. -/
def foldDigits? (acc : Nat) : List Char → Option Nat
  | [] => some acc
  | c :: rest => (digitValue? c).bind fun digit => foldDigits? (acc * 10 + digit) rest

/-- Why a text is no integer within bounds. -/
inductive IntegerFault where
  | empty
  | invalidDigit
  | tooLarge
  | tooSmall
deriving DecidableEq, Repr

/-- The wording of an integer's fault. -/
def IntegerFault.message : IntegerFault → String
  | .empty => "cannot parse integer from empty string"
  | .invalidDigit => "invalid digit found in string"
  | .tooLarge => "number too large to fit in target type"
  | .tooSmall => "number too small to fit in target type"

/-- Reads digits one by one and stops at the first fault: a character that is no digit, or a digit
that takes the number beyond `limit`. -/
def readMagnitude (limit : Nat) (beyond : IntegerFault) : Nat → List Char → Except IntegerFault Nat
  | acc, [] => .ok acc
  | acc, c :: rest =>
    match digitValue? c with
    | none => .error .invalidDigit
    | some digit =>
      let next := acc * 10 + digit
      if next ≤ limit then readMagnitude limit beyond next rest else .error beyond

/-- Reads an unsigned integer up to `limit`; a plus sign may stand in front. -/
def readNatural (limit : Nat) (text : String) : Except IntegerFault Nat :=
  match text.toList with
  | [] => .error .empty
  | ['+'] | ['-'] => .error .invalidDigit
  | '+' :: digits => readMagnitude limit .tooLarge 0 digits
  | digits => readMagnitude limit .tooLarge 0 digits

/-- Reads a signed 64-bit integer; either sign may stand in front. -/
def readInt64 (text : String) : Except IntegerFault Int64 :=
  match text.toList with
  | [] => .error .empty
  | ['+'] | ['-'] => .error .invalidDigit
  | '-' :: digits =>
    (readMagnitude int64Bound .tooSmall 0 digits).map fun n => Int64.ofInt (-(n : Int))
  | '+' :: digits =>
    (readMagnitude (int64Bound - 1) .tooLarge 0 digits).map fun n => Int64.ofInt n
  | digits => (readMagnitude (int64Bound - 1) .tooLarge 0 digits).map fun n => Int64.ofInt n

end Switchboard.Decimal
