import Switchboard.Json.Lexeme
import Switchboard.Text.Lossy

/-!
# Percent encoding

Decoding of escaped bytes in paths, and of the pairs in a query. An escape that is not well formed
stands for itself.
-/

namespace Switchboard.Http

open Json (hexValue?)

/-- The bytes that a text with escapes stands for. -/
def decodePercent : List UInt8 → List UInt8
  | [] => []
  | [a] => [a]
  | [a, b] => [a, b]
  | a :: b :: c :: rest =>
    if a == 0x25 then
      match hexValue? b, hexValue? c with
      | some high, some low => UInt8.ofNat (high * 16 + low) :: decodePercent rest
      | _, _ => a :: decodePercent (b :: c :: rest)
    else a :: decodePercent (b :: c :: rest)

/-- One side of a pair: a plus sign stands for a space, and bytes that are no text are replaced. -/
def decodeFormText (text : List UInt8) : String :=
  Text.decodeLossy (decodePercent (text.map fun b => if b == 0x2b then 0x20 else b))

/-- The parts between ampersands. -/
def splitPairs (bytes : List UInt8) : List (List UInt8) := bytes.splitOn 0x26

/-- The pairs of a query in order. Empty parts are skipped, and a part without an equals sign has an
empty value. -/
def decodeForm (query : String) : List (String × String) :=
  ((splitPairs query.toUTF8.toList).filter fun part => !part.isEmpty).map fun part =>
    (decodeFormText (part.takeWhile (· != 0x3d)),
      decodeFormText ((part.dropWhile (· != 0x3d)).drop 1))

end Switchboard.Http
