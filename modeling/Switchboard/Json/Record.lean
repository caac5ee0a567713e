import Switchboard.Json.Reader

/-!
# Reading typed values

Readers for the types that requests are made of. A record is read from an object, whose unknown
members are passed over, or from an array with the fields in order.
-/

namespace Switchboard.Json

/-- Complains about the value that starts with byte `b`. An array or object is not read for that. -/
def wrongType {α : Type} (bound : Nat) (expected : String) (b : UInt8) (rest : Bytes) :
    Except Failure α :=
  if b == 0x5b then failAt (.complaint (.wrongType .sequence expected)) (b :: rest)
  else if b == 0x7b then failAt (.complaint (.wrongType .map expected)) (b :: rest)
  else
    match readScalar bound b rest with
    | .error failure => .error failure
    | .ok (value, rest) => failAt (.complaint (.wrongType value.found expected)) rest

/-- The signed 64-bit integer that a value is. -/
def Value.toInt64 : Value → Except Complaint Int64
  | .integer n =>
    if -(Decimal.int64Bound : Int) ≤ n && n < Decimal.int64Bound then .ok (Int64.ofInt n)
    else .error (.wrongValue (.integer n) "i64")
  | other => .error (.wrongType other.found "i64")

/-- Reads a signed 64-bit integer. -/
def readInt64 (bound : Nat) (bytes : Bytes) : Outcome Int64 :=
  match skipBlanks bytes with
  | [] => failAt .endInValue []
  | b :: rest =>
    if b == 0x2d || isDigitByte b then
      match readScalar bound b rest with
      | .error failure => .error failure
      | .ok (value, rest) =>
        match value.toInt64 with
        | .ok n => .ok (n, rest)
        | .error complaint => failAt (.complaint complaint) rest
    else wrongType bound "i64" b rest

/-- Reads an array of items. -/
def readArray {α : Type} (bound : Nat) (item : Bytes → Outcome α) (bytes : Bytes) :
    Outcome (List α) :=
  match skipBlanks bytes with
  | [] => failAt .endInValue []
  | b :: rest =>
    if b == 0x5b then readItems item bound [] rest else wrongType bound "a sequence" b rest

/-- Reads a string. -/
def readText (bound : Nat) (expected : String) (bytes : Bytes) : Outcome String :=
  match skipBlanks bytes with
  | [] => failAt .endInValue []
  | b :: rest => if b == 0x22 then readString bound rest else wrongType bound expected b rest

/-- Reads a string, or null for none. -/
def readOptionalText (bound : Nat) (bytes : Bytes) : Outcome (Option String) :=
  match skipBlanks bytes with
  | 0x6e :: rest => readLiteral none ['u', 'l', 'l'] rest
  | _ => mapOutcome some (readText bound "a string" bytes)

/-- What a record does with a member, given the fields read so far. -/
inductive MemberUse (σ : Type) where
  /-- The field has been read before. -/
  | repeated
  /-- The field's value is read. -/
  | read (reader : Bytes → Outcome σ)
  /-- No field has that name. -/
  | ignored

/-- Reads the members of an object for the fields of a record. Stops with a complaint at a field
that is repeated; the closing brace is left. -/
def collectMembers {σ : Type} (bound : Nat) (use : σ → String → MemberUse σ) :
    Nat → Bool → σ → Bytes → Except Failure (Except Complaint σ × Bytes)
  | 0, _, _, rest => failAt .endInObject rest
  | rounds + 1, first, fields, bytes => do
    let (name?, rest) ← readName (readString bound) first bytes
    match name? with
    | none => .ok (.ok fields, rest)
    | some name =>
      match use fields name with
      | .repeated => .ok (.error (.duplicateField name), rest)
      | .read reader =>
        let rest ← expectColon rest
        let (fields, rest) ← within (.member name) (reader rest)
        collectMembers bound use rounds false fields rest
      | .ignored =>
        let rest ← expectColon rest
        let rest ← within (.member name) (skipValue bound rest)
        collectMembers bound use rounds false fields rest

/-- Where a complaint about an object is placed: behind its closing brace, if that comes next. -/
def afterMembers (bytes : Bytes) : Bytes :=
  match skipBlanks bytes with
  | 0x7d :: rest => rest
  | rest => rest

/-- Where a complaint about an array is placed: behind its closing bracket, if that comes next, or
behind a comma. -/
def afterItems (bytes : Bytes) : Bytes :=
  match skipBlanks bytes with
  | 0x5d :: rest => rest
  | 0x2c :: rest => skipBlanks rest
  | rest => rest

/-- Ends an object: its value, or a complaint placed behind it. -/
def closeMembers {α : Type} (result : Except Complaint α) (bytes : Bytes) :
    Except Failure (α × Bytes) :=
  match result with
  | .ok value => do .ok (value, ← endMembers bytes)
  | .error complaint => failAt (.complaint complaint) (afterMembers bytes)

/-- Ends an array: its value, or a complaint placed behind it. -/
def closeItems {α : Type} (result : Except Complaint α) (bytes : Bytes) :
    Except Failure (α × Bytes) :=
  match result with
  | .ok value => do .ok (value, ← endItems bytes)
  | .error complaint => failAt (.complaint complaint) (afterItems bytes)

/-- Reads the next field of a record that is given as an array: none if the array ends. -/
def readNextItem {α : Type} (index : Nat) (reader : Bytes → Outcome α) (bytes : Bytes) :
    Except Failure (Option α × Bytes) := do
  let (more, rest) ← nextItem (index == 0) bytes
  if more then
    let (value, rest) ← within (.item index) (reader rest)
    .ok (some value, rest)
  else .ok (none, rest)

/-- Reads a record from an array or an object, given how to read their contents. -/
def readRecord {α : Type} (bound : Nat) (expected : String)
    (items members : Bytes → Except Failure (Except Complaint α × Bytes)) (bytes : Bytes) :
    Outcome α :=
  match skipBlanks bytes with
  | [] => failAt .endInValue []
  | b :: rest =>
    if b == 0x5b then (items rest).bind fun (result, rest) => closeItems result rest
    else if b == 0x7b then (members rest).bind fun (result, rest) => closeMembers result rest
    else wrongType bound expected b rest

/-- Reads the name of a choice among `known`. -/
def readVariant {α : Type} (bound : Nat) (expected : String) (known : List (String × α))
    (bytes : Bytes) : Except Failure (α × Bytes) := do
  let (name, rest) ← readText bound expected bytes
  match lookup? name known with
  | some value => .ok (value, rest)
  | none => failAt (.complaint (.unknownVariant name (known.map (·.1)))) rest

/-- Checks that an object has a first member, which names a choice. -/
def expectChoice (bytes : Bytes) : Except Failure Unit := do
  let (more, rest) ← nextMember true bytes
  if more then .ok () else failPast .expectedValue rest

/-- Reads a choice without content: its name, or an object with the name and null. -/
def readChoice {α : Type} (bound : Nat) (known : List (String × α)) (bytes : Bytes) :
    Except Failure (α × Bytes) :=
  match skipBlanks bytes with
  | [] => failAt .endInValue []
  | b :: rest =>
    if b == 0x22 then readVariant bound "variant identifier" known (b :: rest)
    else if b == 0x7b then do
      expectChoice rest
      let (value, rest) ← readVariant bound "variant identifier" known rest
      let rest ← expectColon rest
      match skipBlanks rest with
      | [] => failAt .endInValue []
      | 0x6e :: rest =>
        let ((), rest) ← readLiteral () ['u', 'l', 'l'] rest
        match skipBlanks rest with
        | [] => failAt .endInObject []
        | 0x7d :: rest => .ok (value, rest)
        | rest => failAt .expectedValue rest
      | c :: rest => wrongType bound "unit" c rest
    else failAt .expectedValue rest

end Switchboard.Json
