import Switchboard.Http.Message

/-!
# Media types

Whether a content type names JSON: the type is `application`, and the subtype or its suffix is
`json`. Parameters do not matter, but they have to be well formed.
-/

namespace Switchboard.Http

/-- The characters of a token. -/
def isTokenChar (c : Char) : Bool :=
  c.isAlphanum || "!#$%&'*+-.^_`|~".toList.contains c

/-- The characters that may stand between quotes: those of ASCII but the controls. -/
def isQuotedChar (c : Char) : Bool := 31 < c.toNat && c.toNat < 127

/-- What is left of a quoted value's text after its closing quote; the first character of the value
may be a quote. -/
def afterQuoted (text : List Char) : Option (List Char) :=
  match text with
  | [] => none
  | first :: rest =>
    if !isQuotedChar first then none
    else
      let inside := rest.takeWhile (· != '"')
      if inside.all isQuotedChar then
        match rest.drop inside.length with
        | _ :: after => some after
        | [] => none
      else none

/-- Whether a text, after a semicolon, is a list of parameters. -/
def areParameters : (fuel : Nat) → List Char → Bool
  | 0, _ => false
  | _ + 1, [] => true
  | fuel + 1, ' ' :: rest => areParameters fuel rest
  | fuel + 1, text =>
    let name := text.takeWhile isTokenChar
    match text.drop name.length with
    | '=' :: value =>
      if name.isEmpty then false
      else
        match value with
        | '"' :: quoted =>
          match afterQuoted quoted with
          | none => false
          | some rest =>
            match rest.dropWhile (· == ' ') with
            | [] => true
            | ';' :: rest => areParameters fuel rest
            | _ => false
        | _ =>
          let plain := value.takeWhile isTokenChar
          match value.drop plain.length with
          | [] => true
          | ';' :: rest => if plain.isEmpty then false else areParameters fuel rest
          | _ => false
    | _ => false

/-- A subtype and its suffix, which follows the last plus sign that is not its first character. -/
def splitSuffix (subtype : List Char) : List Char × Option (List Char) :=
  let suffix := (subtype.reverse.takeWhile (· != '+')).reverse
  if suffix.length + 1 < subtype.length then
    (subtype.take (subtype.length - suffix.length - 1), some suffix)
  else (subtype, none)

/-- Whether a content type names JSON. -/
def isJsonType (contentType : String) : Bool :=
  let text := contentType.toList
  let type := text.takeWhile isTokenChar
  match text.drop type.length with
  | '/' :: rest =>
    let subtype := rest.takeWhile isTokenChar
    let wellFormed :=
      match rest.drop subtype.length with
      | [] => true
      | ';' :: parameters =>
        !subtype.isEmpty && areParameters (parameters.length + 1) parameters
      | _ => false
    let (main, suffix) := splitSuffix subtype
    let isJson (name : List Char) : Bool := name.map Char.toLower == "json".toList
    wellFormed && type.map Char.toLower == "application".toList &&
      (isJson main || (suffix.map isJson).getD false)
  | _ => false

end Switchboard.Http
