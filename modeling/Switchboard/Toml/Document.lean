import Switchboard.Toml.Scalar

/-!
# TOML documents

A document is a sequence of statements, one a line: entries and headers. `readStatements` reads
them, and `Draft.add?` applies one to what the earlier ones have built. A text is a document if all
of its statements can be read and applied.
-/

namespace Switchboard.Toml

/-! ## Keys and values -/

/-- How many parts a dotted key may have, and how deep arrays and inline tables may nest. -/
def maxDepth : Nat := 79

/-- Whether a character may stand in a key without quotes. -/
def isBare (c : Char) : Bool := c.isAlphanum || c == '-' || c == '_'

/-- Reads one part of a key. -/
def readKeyPart (chars : List Char) : Option (String × List Char) :=
  match chars with
  | '"' :: rest => readBasic rest
  | '\'' :: rest => readLiteral rest
  | _ =>
    match chars.takeWhile isBare with
    | [] => none
    | part => some (String.ofList part, chars.dropWhile isBare)

/-- Reads the parts of a key, at most so many: the path, and the name at its end. -/
def readKeyOnto : Nat → List String → List Char → Option ((List String × String) × List Char)
  | 0, _, _ => none
  | left + 1, path, chars => do
    let (part, rest) ← readKeyPart (skipSpaces chars)
    match skipSpaces rest with
    | '.' :: rest => readKeyOnto left (part :: path) rest
    | rest => some ((path.reverse, part), rest)

/-- Reads a key with the blanks around it. -/
def readKey (chars : List Char) : Option ((List String × String) × List Char) :=
  readKeyOnto maxDepth [] chars

/-- Skips blanks, line ends and comments between the items of an array. -/
def skipLayout (inComment : Bool) : List Char → List Char
  | '\n' :: rest => skipLayout false rest
  | '\r' :: '\n' :: rest => skipLayout false rest
  | c :: rest =>
    if inComment && isPlain c then skipLayout true rest
    else if c == '#' then skipLayout true rest
    else if isSpace c then skipLayout false rest
    else c :: rest
  | [] => []

/-- Reads the items of an array up to its closing bracket, each with `item`; a comma may stand
behind the last one. -/
def readItems (item : List Char → Option (Value × List Char)) :
    Nat → List Value → List Char → Option (List Value × List Char)
  | 0, _, _ => none
  | bound + 1, done, chars =>
    match skipLayout false chars with
    | ']' :: rest => some (done.reverse, rest)
    | rest => do
      let (value, rest) ← item rest
      match skipLayout false rest with
      | ',' :: rest => readItems item bound (value :: done) rest
      | ']' :: rest => some ((value :: done).reverse, rest)
      | _ => none

/-- Reads an entry, its value with `value`. -/
def readEntry (value : List Char → Option (Value × List Char)) (chars : List Char) :
    Option ((List String × String) × Value × List Char) := do
  let (key, rest) ← readKey chars
  let rest ← expect? '=' rest
  let (value, rest) ← value (skipSpaces rest)
  some (key, value, rest)

/-- Reads the entries of an inline table up to its closing brace, each value with `value`. -/
def readEntries (value : List Char → Option (Value × List Char)) :
    Nat → Table → List Char → Option (Table × List Char)
  | 0, _, _ => none
  | bound + 1, table, chars => do
    let ((path, name), item, rest) ← readEntry value chars
    let table ← table.assign? name item path
    match skipSpaces rest with
    | ',' :: rest => readEntries value bound table rest
    | '}' :: rest => some (table, rest)
    | _ => none

/-- Reads an inline table after its opening brace. -/
def readInlineTable (value : List Char → Option (Value × List Char)) (chars : List Char) :
    Option (Table × List Char) :=
  match skipSpaces chars with
  | '}' :: rest => some ([], rest)
  | rest => readEntries value (rest.length + 1) [] rest

/-- Reads a value that nests no deeper than given. -/
def readValue : Nat → List Char → Option (Value × List Char)
  | 0, chars => readScalar chars
  | depth + 1, chars =>
    match chars with
    | '[' :: rest =>
      (readItems (readValue depth) (rest.length + 1) [] rest).map fun (items, rest) =>
        (.array items, rest)
    | '\x7b' :: rest =>
      (readInlineTable (readValue depth) rest).map fun (entries, rest) =>
        (.inlineTable entries, rest)
    | _ => readScalar chars

/-! ## Statements -/

/-- What a line says. -/
inductive Statement where
  | entry (path : List String) (name : String) (value : Value)
  /-- Opens a table. -/
  | header (path : List String) (name : String)
  /-- Opens a further item of a list of tables. -/
  | itemHeader (path : List String) (name : String)
deriving Repr

/-- Passes the rest of a line that has no more to say than a comment. -/
def endLine (chars : List Char) : Option (List Char) :=
  let rest := match skipSpaces chars with
    | '#' :: rest => rest.dropWhile isPlain
    | rest => rest
  if rest.isEmpty then some [] else newline? rest

/-- Reads a statement, without the end of its line. -/
def readStatement (chars : List Char) : Option (Statement × List Char) :=
  match chars with
  | '[' :: '[' :: rest => do
    let ((path, name), rest) ← readKey rest
    let rest ← expectAll? [']', ']'] rest
    some (.itemHeader path name, rest)
  | '[' :: rest => do
    let ((path, name), rest) ← readKey rest
    let rest ← expect? ']' rest
    some (.header path name, rest)
  | _ => do
    let ((path, name), value, rest) ← readEntry (readValue maxDepth) chars
    some (.entry path name value, rest)

/-- Reads the statements of all lines; `done` holds those so far, the last first. -/
def readStatementsOnto : Nat → List Statement → List Char → Option (List Statement)
  | 0, _, _ => none
  | bound + 1, done, chars =>
    match skipSpaces chars with
    | [] => some done.reverse
    | c :: rest =>
      if c == '#' || c == '\n' || c == '\r' then do
        readStatementsOnto bound done (← endLine (c :: rest))
      else do
        let (statement, rest) ← readStatement (c :: rest)
        readStatementsOnto bound (statement :: done) (← endLine rest)

/-- Reads all statements. A byte order mark may stand in front. -/
def readStatements (text : String) : Option (List Statement) :=
  let chars := match text.toList with
    | '\ufeff' :: rest => rest
    | chars => chars
  readStatementsOnto (chars.length + 1) [] chars

/-! ## Building -/

/-- What a document has said so far. -/
structure Draft where
  root : Table := []
  /-- The path of the table that the last header has opened. -/
  current : List String := []

/-- Adds what a statement says, if nothing before speaks against it. -/
def Draft.add? (draft : Draft) : Statement → Option Draft
  | .entry path name value =>
    (Table.within? (Table.assign? name value path) draft.current draft.root).map fun root =>
      { draft with root }
  | .header path name =>
    (Table.within? (Table.open? name) path draft.root).map fun root => ⟨root, path ++ [name]⟩
  | .itemHeader path name =>
    (Table.within? (Table.openItem? name) path draft.root).map fun root => ⟨root, path ++ [name]⟩

/-- The table that a text denotes; `none` if it is no document. -/
def parse? (text : String) : Option Table := do
  let statements ← readStatements text
  let draft ← statements.foldlM Draft.add? {}
  some draft.root

end Switchboard.Toml
