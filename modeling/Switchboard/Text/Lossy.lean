/-!
# Lossy decoding

Text from bytes that may not be UTF-8: each longest run of bytes that starts a character but does
not finish it, and each byte that starts none, becomes one replacement character.
-/

namespace Switchboard.Text

/-- The character that stands for bytes that are none. -/
def replacement : Char := '\ufffd'

/-- Whether a byte continues a character. -/
def isContinuation (b : UInt8) : Bool := 0x80 ≤ b && b ≤ 0xbf

/-- The six bits that a continuation byte carries. -/
def continuationBits (b : UInt8) : Nat := b.toNat % 0x40

/-- Whether `second` may follow `first` at the start of a three-byte character. -/
def startsThree (first second : UInt8) : Bool :=
  if first == 0xe0 then 0xa0 ≤ second && second ≤ 0xbf
  else if first == 0xed then 0x80 ≤ second && second ≤ 0x9f
  else 0xe1 ≤ first && first ≤ 0xef && isContinuation second

/-- Whether `second` may follow `first` at the start of a four-byte character. -/
def startsFour (first second : UInt8) : Bool :=
  if first == 0xf0 then 0x90 ≤ second && second ≤ 0xbf
  else if first == 0xf4 then 0x80 ≤ second && second ≤ 0x8f
  else 0xf1 ≤ first && first ≤ 0xf3 && isContinuation second

/-- Decodes bytes; `done` holds the characters so far, the last first. -/
def decodeLossyOnto (done : List Char) : List UInt8 → List Char
  | [] => done.reverse
  | [a] => (if a < 0x80 then Char.ofNat a.toNat :: done else replacement :: done).reverse
  | a :: b :: rest =>
    if a < 0x80 then decodeLossyOnto (Char.ofNat a.toNat :: done) (b :: rest)
    else if 0xc2 ≤ a && a ≤ 0xdf && isContinuation b then
      decodeLossyOnto (Char.ofNat (a.toNat % 0x20 * 0x40 + continuationBits b) :: done) rest
    else if startsThree a b then
      match rest with
      | [] => (replacement :: done).reverse
      | c :: after =>
        if isContinuation c then
          decodeLossyOnto
            (Char.ofNat ((a.toNat % 0x10 * 0x40 + continuationBits b) * 0x40 +
              continuationBits c) :: done) after
        else decodeLossyOnto (replacement :: done) (c :: after)
    else if startsFour a b then
      match rest with
      | [] => (replacement :: done).reverse
      | [c] =>
        if isContinuation c then (replacement :: done).reverse
        else decodeLossyOnto (replacement :: done) [c]
      | c :: d :: after =>
        if !isContinuation c then decodeLossyOnto (replacement :: done) (c :: d :: after)
        else if !isContinuation d then decodeLossyOnto (replacement :: done) (d :: after)
        else
          decodeLossyOnto
            (Char.ofNat (((a.toNat % 0x08 * 0x40 + continuationBits b) * 0x40 +
              continuationBits c) * 0x40 + continuationBits d) :: done) after
    else decodeLossyOnto (replacement :: done) (b :: rest)

/-- The text of bytes, with replacements where they are no text. -/
def decodeLossy (bytes : List UInt8) : String := String.ofList (decodeLossyOnto [] bytes)

end Switchboard.Text
