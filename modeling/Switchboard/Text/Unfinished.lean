import Switchboard.Text.Lossy

/-!
# Unfinished text

How far bytes are UTF-8 text, and whether they are the beginning of one, of which more may be to
come.
-/

namespace Switchboard.Text

/-- How many bytes at the front are whole characters, added to `count`. -/
def textLengthOnto (count : Nat) : List UInt8 → Nat
  | [] => count
  | a :: rest =>
    if a < 0x80 then textLengthOnto (count + 1) rest
    else
      match rest with
      | b :: rest =>
        if 0xc2 ≤ a && a ≤ 0xdf && isContinuation b then textLengthOnto (count + 2) rest
        else
          match rest with
          | c :: rest =>
            if startsThree a b && isContinuation c then textLengthOnto (count + 3) rest
            else
              match rest with
              | d :: rest =>
                if startsFour a b && isContinuation c && isContinuation d then
                  textLengthOnto (count + 4) rest
                else count
              | [] => count
          | [] => count
      | [] => count

/-- How many bytes at the front are whole characters. -/
def textLength (bytes : List UInt8) : Nat := textLengthOnto 0 bytes

/-- Whether bytes can be continued to a text; the last character may be cut short. -/
def isTextPrefix : List UInt8 → Bool
  | [] => true
  | a :: rest =>
    if a < 0x80 then isTextPrefix rest
    else if 0xc2 ≤ a && a ≤ 0xdf then
      match rest with
      | [] => true
      | b :: after => isContinuation b && isTextPrefix after
    else if 0xe0 ≤ a && a ≤ 0xef then
      match rest with
      | [] => true
      | [b] => startsThree a b
      | b :: c :: after => startsThree a b && isContinuation c && isTextPrefix after
    else if 0xf0 ≤ a && a ≤ 0xf4 then
      match rest with
      | [] => true
      | [b] => startsFour a b
      | [b, c] => startsFour a b && isContinuation c
      | b :: c :: d :: after =>
        startsFour a b && isContinuation c && isContinuation d && isTextPrefix after
    else false

end Switchboard.Text
