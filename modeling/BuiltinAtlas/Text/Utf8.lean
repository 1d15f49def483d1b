/-!
# Reading UTF-8

In UTF-8, a character is a byte below 128, or a first byte with as many further ones as
`continuation?` says. `decodeUtf8From` reads any bytes: what is no character becomes a replacement
character.
-/

namespace BuiltinAtlas.Text

/-- How a sequence of bytes that begins with a byte goes on: the range of the second byte, and the
number of bytes behind it. -/
def continuation? (b : UInt8) : Option (UInt8 × UInt8 × Nat) :=
  if 0xC2 ≤ b && b ≤ 0xDF then some (0x80, 0xBF, 0)
  else if b == 0xE0 then some (0xA0, 0xBF, 1)
  else if b == 0xED then some (0x80, 0x9F, 1)
  else if 0xE1 ≤ b && b ≤ 0xEF then some (0x80, 0xBF, 1)
  else if b == 0xF0 then some (0x90, 0xBF, 2)
  else if 0xF1 ≤ b && b ≤ 0xF3 then some (0x80, 0xBF, 2)
  else if b == 0xF4 then some (0x80, 0x8F, 2)
  else none

/-- What has been read of a character: its value, the range of the next byte, and the number of
bytes behind that. -/
structure Partial where
  value : Nat
  low : UInt8
  high : UInt8
  more : Nat

/-- Read UTF-8. The longest beginning of a character that is not completed becomes one replacement
character. -/
def decodeUtf8From : Option Partial → List UInt8 → List Char
  | none, [] => []
  | some _, [] => ['\uFFFD']
  | state, b :: bs =>
    let fresh :=
      if b < 128 then Char.ofNat b.toNat :: decodeUtf8From none bs
      else match continuation? b with
        | some (low, high, more) =>
          let bitsOfFirst := 1 <<< (5 - more)
          decodeUtf8From (some ⟨b.toNat % bitsOfFirst, low, high, more⟩) bs
        | none => '\uFFFD' :: decodeUtf8From none bs
    match state with
    | none => fresh
    | some p =>
      if p.low ≤ b && b ≤ p.high then
        let value := p.value * 64 + b.toNat % 64
        match p.more with
        | 0 => Char.ofNat value :: decodeUtf8From none bs
        | more + 1 => decodeUtf8From (some ⟨value, 0x80, 0xBF, more⟩) bs
      else '\uFFFD' :: fresh

end BuiltinAtlas.Text
