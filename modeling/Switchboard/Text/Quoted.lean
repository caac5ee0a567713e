import Switchboard.Text.Ranges
import Switchboard.Text.UnprintableTable

/-!
# Quoted text

A text as messages quote it: between double quotes, with the quote, the backslash and the common
controls escaped by a letter, and every other character that cannot be shown written as its code
point in braces. In a path the apostrophe is escaped as well.
-/

namespace Switchboard.Text

/-- Whether a character is shown as it is. -/
def isPrintable (c : Char) : Bool :=
  let code := c.toNat
  if code < 0x80 then 0x20 ≤ code && code < 0x7f else !inRanges unprintableRanges code

/-- A code point in braces, as few lower-case hexadecimal digits as it takes. -/
def escapeCodePoint (c : Char) : List Char :=
  ['\\', 'u', '{'] ++ Nat.toDigits 16 c.toNat ++ ['}']

/-- One character inside the quotes. -/
def quoteChar (c : Char) : List Char :=
  match c with
  | '"' => ['\\', '"']
  | '\\' => ['\\', '\\']
  | '\n' => ['\\', 'n']
  | '\t' => ['\\', 't']
  | '\r' => ['\\', 'r']
  | '\x00' => ['\\', '0']
  | c => if isPrintable c then [c] else escapeCodePoint c

/-- One character of a path inside the quotes. -/
def quotePathChar (c : Char) : List Char :=
  if c == '\x27' then ['\\', '\x27'] else quoteChar c

/-- A text between double quotes. -/
def quoted (text : String) : String :=
  String.ofList (['"'] ++ text.toList.flatMap quoteChar ++ ['"'])

/-- A path between double quotes. -/
def quotedPath (path : String) : String :=
  String.ofList (['"'] ++ path.toList.flatMap quotePathChar ++ ['"'])

end Switchboard.Text
