import Switchboard.Complaint

/-!
# What is wrong with a JSON text

A reader works on the bytes that are left, so a fault carries the bytes left at its position; line
and column are worked out from the whole text afterwards. It also carries the way from the outermost
value to the one that was being read.
-/

namespace Switchboard.Json

/-- The bytes of a text. -/
abbrev Bytes := List UInt8

/-- Why reading stops. -/
inductive Fault where
  | complaint (complaint : Complaint)
  | endInList
  | endInObject
  | endInString
  | endInValue
  | expectedColon
  | expectedListCommaOrEnd
  | expectedObjectCommaOrEnd
  | expectedIdent
  | expectedValue
  | invalidEscape
  | invalidNumber
  | numberOutOfRange
  | invalidCodePoint
  | controlCharacter
  | keyMustBeString
  | loneSurrogate
  | trailingComma
  | trailingCharacters
  | unexpectedEndOfEscape
  | tooDeep
deriving DecidableEq, Repr

/-- The wording of a fault. -/
def Fault.message : Fault → String
  | .complaint cause => cause.message
  | .endInList => "EOF while parsing a list"
  | .endInObject => "EOF while parsing an object"
  | .endInString => "EOF while parsing a string"
  | .endInValue => "EOF while parsing a value"
  | .expectedColon => "expected `:`"
  | .expectedListCommaOrEnd => "expected `,` or `]`"
  | .expectedObjectCommaOrEnd => "expected `,` or `\x7d`"
  | .expectedIdent => "expected ident"
  | .expectedValue => "expected value"
  | .invalidEscape => "invalid escape"
  | .invalidNumber => "invalid number"
  | .numberOutOfRange => "number out of range"
  | .invalidCodePoint => "invalid unicode code point"
  | .controlCharacter => "control character (\\u0000-\\u001F) found while parsing a string"
  | .keyMustBeString => "key must be a string"
  | .loneSurrogate => "lone leading surrogate in hex escape"
  | .trailingComma => "trailing comma"
  | .trailingCharacters => "trailing characters"
  | .unexpectedEndOfEscape => "unexpected end of hex escape"
  | .tooDeep => "recursion limit exceeded"

/-- Whether the text is JSON but not what was asked for. -/
def Fault.isComplaint : Fault → Bool
  | .complaint _ => true
  | _ => false

/-- One step from a value to a part of it. -/
inductive PathStep where
  | member (name : String)
  | item (index : Nat)
  /-- To a member whose name could not be read. -/
  | unnamed
deriving DecidableEq, Repr

/-- A path in writing: names after points, indices in brackets, and a question mark for a name that
could not be read. -/
def renderPath (path : List PathStep) : String :=
  (path.foldl (fun (text, separator) step =>
    match step with
    | .member name => (text ++ separator ++ name, ".")
    | .item index => (text ++ "[" ++ toString index ++ "]", ".")
    | .unnamed => (text ++ separator ++ "?", "."))
    ("", "")).1

/-- A fault, the bytes left at its position, and the path to the value being read. -/
structure Failure where
  fault : Fault
  rest : Bytes
  path : List PathStep
deriving Repr

/-- What a reader of `α` makes of the bytes that are left: a value and the bytes after it. -/
abbrev Outcome (α : Type) := Except Failure (α × Bytes)

/-- Stops with the position before `rest`. -/
def failAt {α : Type} (fault : Fault) (rest : Bytes) : Except Failure α :=
  .error ⟨fault, rest, []⟩

/-- Stops with the position behind the next byte, or at the end if there is none. -/
def failPast {α : Type} (fault : Fault) (rest : Bytes) : Except Failure α :=
  .error ⟨fault, rest.tail, []⟩

/-- A failure inside a part of a value. The step to the part is worked out only for a failure. -/
@[macro_inline]
def within {α : Type} (step : PathStep) (outcome : Except Failure α) : Except Failure α :=
  outcome.mapError fun failure => { failure with path := step :: failure.path }

/-- A place in a text: the number of its line, from one, and of bytes before it on that line. -/
structure Position where
  line : Nat
  column : Nat
deriving DecidableEq, Repr

/-- The position after one more byte. -/
def Position.advance (position : Position) (byte : UInt8) : Position :=
  if byte == 0x0a then ⟨position.line + 1, 0⟩ else ⟨position.line, position.column + 1⟩

/-- The position in `text` before its last `rest.length` bytes. -/
def Position.locate (text rest : Bytes) : Position :=
  (text.take (text.length - rest.length)).foldl Position.advance ⟨1, 0⟩

/-- A reader's failure as it is reported. A complaint about a value that is no longer part of a text
has no position. -/
structure Error where
  fault : Fault
  position : Option Position
  path : List PathStep
deriving Repr

/-- The failure of reading `text`, with its position. -/
def Failure.toError (text : Bytes) (failure : Failure) : Error :=
  ⟨failure.fault, some (.locate text failure.rest), failure.path⟩

/-- A complaint without a position. -/
def Error.ofComplaint (complaint : Complaint) : Error := ⟨.complaint complaint, none, []⟩

/-- The wording of an error. -/
def Error.message (error : Error) : String :=
  match error.position with
  | none => error.fault.message
  | some position =>
    error.fault.message ++ " at line " ++ toString position.line ++ " column " ++
      toString position.column

/-- The wording of an error after the path to where it arose, if that says anything. -/
def Error.messageWithPath (error : Error) : String :=
  if error.path.all (· == .unnamed) then error.message
  else renderPath error.path ++ ": " ++ error.message

end Switchboard.Json
