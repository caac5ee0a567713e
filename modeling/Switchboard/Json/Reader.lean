import Switchboard.Json.Lexeme
import Switchboard.Json.Value

/-!
# Reading JSON values

`readValue` reads one value off the front of a text, down to a depth; `skipValue` passes over one
whose content does not matter, however deep, and looks at less of it. Loops over items and members
run at most `bound` rounds, where `bound` is more than the length of the text.
-/

namespace Switchboard.Json

/-- How deep arrays and objects may nest. -/
def maxDepth : Nat := 127

/-- Whether another item follows, with the bytes where it starts; `first` says that none was read
yet. -/
def nextItem (first : Bool) (bytes : Bytes) : Except Failure (Bool × Bytes) :=
  match skipBlanks bytes with
  | [] => failAt .endInList []
  | b :: rest =>
    if b == 0x5d then .ok (false, b :: rest)
    else if first then .ok (true, b :: rest)
    else if b == 0x2c then
      match skipBlanks rest with
      | [] => failAt .endInValue []
      | c :: after => if c == 0x5d then failAt .trailingComma after else .ok (true, c :: after)
    else failAt .expectedListCommaOrEnd rest

/-- Passes the end of an array whose items have all been read. -/
def endItems (bytes : Bytes) : Except Failure Bytes :=
  match skipBlanks bytes with
  | [] => failAt .endInList []
  | b :: rest =>
    if b == 0x5d then .ok rest
    else if b == 0x2c then
      match skipBlanks rest with
      | c :: after => failAt (if c == 0x5d then .trailingComma else .trailingCharacters) after
      | [] => failAt .trailingCharacters []
    else failAt .trailingCharacters rest

/-- Whether another member follows, with the bytes after the opening quote of its name. -/
def nextMember (first : Bool) (bytes : Bytes) : Except Failure (Bool × Bytes) :=
  match skipBlanks bytes with
  | [] => failAt .endInObject []
  | b :: rest =>
    if b == 0x7d then .ok (false, b :: rest)
    else if first then
      if b == 0x22 then .ok (true, rest) else failAt .keyMustBeString rest
    else if b == 0x2c then
      match skipBlanks rest with
      | [] => failAt .endInValue []
      | c :: after =>
        if c == 0x22 then .ok (true, after)
        else if c == 0x7d then failAt .trailingComma after
        else failAt .keyMustBeString after
    else failAt .expectedObjectCommaOrEnd rest

/-- Reads the name of the next member with `text`: none if the object ends. -/
def readName (text : Bytes → Outcome String) (first : Bool) (bytes : Bytes) :
    Except Failure (Option String × Bytes) :=
  within .unnamed do
    let (more, rest) ← nextMember first bytes
    if more then
      let (name, rest) ← text rest
      .ok (some name, rest)
    else .ok (none, rest)

/-- Passes the end of an object whose members have all been read. -/
def endMembers (bytes : Bytes) : Except Failure Bytes :=
  match skipBlanks bytes with
  | [] => failAt .endInObject []
  | b :: rest =>
    if b == 0x7d then .ok rest
    else if b == 0x2c then failAt .trailingComma rest
    else failAt .trailingCharacters rest

/-- Passes the colon between name and value. -/
def expectColon (bytes : Bytes) : Except Failure Bytes :=
  match skipBlanks bytes with
  | [] => failAt .endInObject []
  | b :: rest => if b == 0x3a then .ok rest else failAt .expectedColon rest

/-- Reads the items of an array up to its closing bracket, each with `item`; `done` holds those
read so far, the last first. -/
def readItems {α : Type} (item : Bytes → Outcome α) :
    Nat → List α → Bytes → Except Failure (List α × Bytes)
  | 0, _, rest => failAt .endInList rest
  | bound + 1, done, bytes => do
    let (more, rest) ← nextItem done.isEmpty bytes
    if more then
      let (value, rest) ← within (.item done.length) (item rest)
      readItems item bound (value :: done) rest
    else .ok (done.reverse, ← endItems rest)

/-- Reads the members of an object up to its closing brace, each value with `value`. -/
def readMembers {α : Type} (text : Bytes → Outcome String) (value : Bytes → Outcome α) :
    Nat → List (String × α) → Bytes → Except Failure (List (String × α) × Bytes)
  | 0, _, rest => failAt .endInObject rest
  | bound + 1, done, bytes => do
    let (name?, rest) ← readName text done.isEmpty bytes
    match name? with
    | some name =>
      let rest ← expectColon rest
      let (member, rest) ← within (.member name) (value rest)
      readMembers text value bound ((name, member) :: done) rest
    | none => .ok (done.reverse, ← endMembers rest)

/-- The value of a number. -/
def Number.toValue : Number → Value
  | .integer value => .integer value
  | .float value => .float value

/-- Maps the value of an outcome. -/
def mapOutcome {α β : Type} (f : α → β) (outcome : Outcome α) : Outcome β :=
  outcome.map fun (value, rest) => (f value, rest)

/-- Reads a value that is neither an array nor an object, whose first byte is `b`. -/
def readScalar (bound : Nat) (b : UInt8) (rest : Bytes) : Outcome Value :=
  if b == 0x6e then readLiteral .null ['u', 'l', 'l'] rest
  else if b == 0x74 then readLiteral (.bool true) ['r', 'u', 'e'] rest
  else if b == 0x66 then readLiteral (.bool false) ['a', 'l', 's', 'e'] rest
  else if b == 0x2d then mapOutcome Number.toValue (readNumber false rest)
  else if isDigitByte b then mapOutcome Number.toValue (readNumber true (b :: rest))
  else if b == 0x22 then mapOutcome Value.string (readString bound rest)
  else failAt .expectedValue rest

/-- Reads a value that nests at most `depth` levels. -/
def readValue (bound : Nat) : (depth : Nat) → Bytes → Outcome Value
  | 0, bytes =>
    match skipBlanks bytes with
    | [] => failAt .endInValue []
    | b :: rest =>
      if b == 0x5b || b == 0x7b then failAt .tooDeep rest else readScalar bound b rest
  | depth + 1, bytes =>
    match skipBlanks bytes with
    | [] => failAt .endInValue []
    | b :: rest =>
      if b == 0x5b then
        mapOutcome Value.array (readItems (readValue bound depth) bound [] rest)
      else if b == 0x7b then
        mapOutcome Value.object
          (readMembers (readString bound) (readValue bound depth) bound [] rest)
      else readScalar bound b rest

/-! ## Values that are passed over -/

/-- Passes a string after its opening quote: escapes have to be well formed, but neither its
encoding nor its surrogates are looked at. -/
def skipString : Nat → Bytes → Except Failure Bytes
  | 0, rest => failAt .endInString rest
  | _ + 1, [] => failAt .endInString []
  | bound + 1, b :: rest =>
    if b == 0x22 then .ok rest
    else if b == 0x5c then
      match rest with
      | [] => failAt .endInString []
      | e :: after =>
        if (simpleEscape? e).isSome then skipString bound after
        else if e == 0x75 then do
          let (_, rest) ← readHex4 after
          skipString bound rest
        else failAt .invalidEscape after
    else if b < 0x20 then failAt .controlCharacter (b :: rest)
    else skipString bound rest

/-- Passes an exponent after its mark. -/
def skipExponent (bytes : Bytes) : Except Failure Bytes :=
  let unsigned := match bytes with
    | b :: rest => if b == 0x2b || b == 0x2d then rest else b :: rest
    | [] => []
  if startsWithDigit unsigned then .ok (unsigned.dropWhile isDigitByte)
  else failAt .invalidNumber unsigned.tail

/-- Passes what follows the integer digits of a number. -/
def skipFraction (bytes : Bytes) : Except Failure Bytes :=
  match bytes with
  | 0x2e :: rest =>
    if startsWithDigit rest then
      let rest := rest.dropWhile isDigitByte
      if startsWithExponent rest then skipExponent rest.tail else .ok rest
    else failPast .invalidNumber rest
  | _ => if startsWithExponent bytes then skipExponent bytes.tail else .ok bytes

/-- Passes a number from its first digit on. -/
def skipNumber (bytes : Bytes) : Except Failure Bytes :=
  match bytes with
  | 0x30 :: rest => if startsWithDigit rest then failPast .invalidNumber rest else skipFraction rest
  | b :: rest =>
    if isDigitByte b then skipFraction (rest.dropWhile isDigitByte)
    else failAt .invalidNumber rest
  | [] => failAt .invalidNumber []

/-- What an open array or object is, while it is passed over. -/
inductive Enclosure where
  | array
  | object
deriving DecidableEq, Repr

/-- What comes next while values are passed over. -/
inductive SkipStage where
  /-- A value. -/
  | value
  /-- The first part of the innermost enclosure, or its end. -/
  | opened
  /-- A comma or the end of the innermost enclosure. -/
  | separated
deriving DecidableEq, Repr

/-- Passes a name and its colon. -/
def skipName (bound : Nat) (bytes : Bytes) : Except Failure Bytes :=
  match skipBlanks bytes with
  | [] => failAt .endInObject []
  | b :: rest => do
    if b == 0x22 then expectColon (← skipString bound rest) else failAt .keyMustBeString rest

/-- Passes what comes before the next value of an enclosure. -/
def skipToValue (bound : Nat) (enclosure : Enclosure) (bytes : Bytes) : Except Failure Bytes :=
  match enclosure with
  | .array => .ok bytes
  | .object => skipName bound bytes

/-- Passes values until the outermost one ends; `open_` holds what encloses the next byte, the
innermost first. -/
def skipOpen (limit : Nat) : Nat → SkipStage → List Enclosure → Bytes → Except Failure Bytes
  | 0, _, _, rest => failAt .endInValue rest
  | bound + 1, .value, open_, bytes =>
    match skipBlanks bytes with
    | [] => failAt .endInValue []
    | b :: rest =>
      if b == 0x5b then skipOpen limit bound .opened (.array :: open_) rest
      else if b == 0x7b then skipOpen limit bound .opened (.object :: open_) rest
      else do
        let rest ←
          if b == 0x22 then skipString limit rest
          else if b == 0x2d then skipNumber rest
          else if isDigitByte b then skipNumber (b :: rest)
          else (readScalar limit b rest).map (·.2)
        skipOpen limit bound .separated open_ rest
  | _ + 1, .opened, [], rest => .ok rest
  | _ + 1, .separated, [], rest => .ok rest
  | bound + 1, stage, enclosure :: open_, bytes =>
    match skipBlanks bytes with
    | [] => failAt (if enclosure = .array then .endInList else .endInObject) []
    | b :: rest => do
      if b == (if enclosure = .array then 0x5d else 0x7d) then
        skipOpen limit bound .separated open_ rest
      else if stage = .opened then
        skipOpen limit bound .value (enclosure :: open_) (← skipToValue limit enclosure (b :: rest))
      else if b == 0x2c then
        skipOpen limit bound .value (enclosure :: open_) (← skipToValue limit enclosure rest)
      else
        failAt (if enclosure = .array then .expectedListCommaOrEnd else .expectedObjectCommaOrEnd)
          rest

/-- Passes one value. -/
def skipValue (bound : Nat) (bytes : Bytes) : Except Failure Bytes :=
  skipOpen bound (2 * bound) .value [] bytes

/-! ## Whole texts -/

/-- More than the number of rounds that any loop over `text` takes. -/
def boundOf (text : Bytes) : Nat := text.length + 1

/-- Nothing but blanks may follow the value of a text. -/
def expectEnd (bytes : Bytes) : Except Failure Unit :=
  match skipBlanks bytes with
  | [] => .ok ()
  | _ :: rest => failAt .trailingCharacters rest

/-- Reads a whole text with `reader`, to its end. -/
def readWhole {α : Type} (reader : Bytes → Outcome α) (text : Bytes) : Except Error α :=
  match reader text with
  | .error failure => .error (failure.toError text)
  | .ok (value, rest) =>
    match expectEnd rest with
    | .error failure => .error (failure.toError text)
    | .ok () => .ok value

/-- Reads a text that is one value. -/
def parse (text : Bytes) : Except Error Value :=
  readWhole (readValue (boundOf text) maxDepth) text

end Switchboard.Json
