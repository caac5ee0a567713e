/-!
# Request targets

What a request is about: a path and a query, written alone or after a scheme and an authority. A
fragment may follow and does not count.
-/

namespace Switchboard.Http

/-- The path and the query of a request. -/
structure Target where
  path : String
  query : String := ""
deriving DecidableEq, Repr

/-- Why a text is no target. -/
inductive TargetFault where
  | malformed
  | tooLong
deriving DecidableEq, Repr

namespace Target

/-- The most bytes that a target may have. -/
def maxSize : Nat := 65534

/-- The most characters that a scheme may have. -/
def maxSchemeLength : Nat := 64

/-- The most colons that one part of an authority may have. -/
def maxColons : Nat := 8

/-- Whether a character may stand in a scheme. -/
def isSchemeChar (c : Char) : Bool := c.isAlphanum || ['+', '-', '.'].contains c

/-- Whether a character ends an authority. -/
def endsAuthority (c : Char) : Bool := c == '/' || c == '?' || c == '#'

/-- Whether a character may stand for itself anywhere in an authority. -/
def isAuthorityChar (c : Char) : Bool := c.isAlphanum || "!$&\x27()*+,-.;=_~".toList.contains c

/-- Whether a character may stand in a path. -/
def isPathChar (c : Char) : Bool := 0x20 < c.toNat && !"#<>?`".toList.contains c

/-- Whether a character may stand in a query. -/
def isQueryChar (c : Char) : Bool := 0x20 < c.toNat && !"\"#<>".toList.contains c

/-- The path and the query in a text; of the fragment nothing is looked at. -/
def ofPathAndQuery? (text : List Char) : Option Target :=
  let text := text.takeWhile (· != '#')
  let path := text.takeWhile (· != '?')
  let query := (text.dropWhile (· != '?')).drop 1
  if path.all isPathChar && query.all isQueryChar then
    some ⟨String.ofList path, String.ofList query⟩
  else none

/-- What has been met in an authority. -/
structure AuthorityScan where
  /-- Colons since the user or the bracketed host ended. -/
  colons : Nat := 0
  /-- A percent sign since then. -/
  percent : Bool := false
  opened : Bool := false
  closed : Bool := false

/-- Takes in one character of an authority. -/
def AuthorityScan.step (scan : AuthorityScan) (c : Char) : Option AuthorityScan :=
  match c with
  | ':' => if scan.colons < maxColons then some { scan with colons := scan.colons + 1 } else none
  | '[' => if scan.percent || scan.opened then none else some { scan with opened := true }
  | ']' =>
    if scan.opened && !scan.closed then
      some { scan with closed := true, colons := 0, percent := false }
    else none
  | '@' => some { scan with colons := 0, percent := false }
  | '%' => some { scan with percent := true }
  | c => if isAuthorityChar c then some scan else none

/-- Whether a text is an authority: at most a user, then a host, which may stand in brackets, then at
most a port. Only the user and the bracketed host may have escapes. -/
def isAuthority (text : List Char) : Bool :=
  match text.foldlM AuthorityScan.step {} with
  | none => false
  | some scan =>
    scan.opened == scan.closed && scan.colons ≤ 1 && !scan.percent && text.getLast? != some '@'

/-- Splits a text at the mark behind its scheme, if it has one. -/
def splitScheme? (text : List Char) : Option (List Char × List Char) :=
  match text.dropWhile isSchemeChar with
  | ':' :: '/' :: '/' :: rest => some (text.takeWhile isSchemeChar, rest)
  | _ => none

/-- The target after a scheme: the authority must not be empty, and the path is at least a slash. -/
def ofAbsolute? (text : List Char) : Option Target :=
  let authority := text.takeWhile fun c => !endsAuthority c
  if authority.isEmpty || !isAuthority authority then none
  else
    (ofPathAndQuery? (text.dropWhile fun c => !endsAuthority c)).map fun target =>
      if target.path.isEmpty then { target with path := "/" } else target

/-- The target that a text is, if it is one: a path with a query, an asterisk, a whole address, or an
authority alone, which has no path. -/
def ofText? (text : List Char) : Option Target :=
  match text with
  | [] => none
  | ['*'] => some ⟨"*", ""⟩
  | '/' :: _ => ofPathAndQuery? text
  | _ =>
    match splitScheme? text with
    | some (scheme, rest) => if maxSchemeLength < scheme.length then none else ofAbsolute? rest
    | none =>
      if text.any endsAuthority || !isAuthority text then none else some ⟨"", ""⟩

/-- Reads a target. -/
def read (text : String) : Except TargetFault Target :=
  if maxSize < text.utf8ByteSize then .error .tooLong
  else
    match ofText? text.toList with
    | some target => .ok target
    | none => .error .malformed

end Target

end Switchboard.Http
