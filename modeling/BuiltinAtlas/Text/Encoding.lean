import BuiltinAtlas.Text.Utf8

/-!
# Decoding source text

Source bytes are UTF-8 if they can be, and ISO-8859-15 if not. What is neither is read as UTF-8 all
the same, with replacement characters. Decoding cannot fail.
-/

namespace BuiltinAtlas.Text

/-- The character of a byte in ISO-8859-15, if it has one: that of ISO-8859-1 with eight exceptions.
-/
def latin9? (b : UInt8) : Option Char :=
  if b == 0xA4 then some '\u20AC'
  else if b == 0xA6 then some '\u0160'
  else if b == 0xA8 then some '\u0161'
  else if b == 0xB4 then some '\u017D'
  else if b == 0xB8 then some '\u017E'
  else if b == 0xBC then some '\u0152'
  else if b == 0xBD then some '\u0153'
  else if b == 0xBE then some '\u0178'
  else if valid : b.toNat.isValidChar then some (Char.ofNatAux b.toNat valid)
  else none

/-- The text of some bytes. -/
def decode (bytes : ByteArray) : String :=
  match String.fromUTF8? bytes with
  | some s => s
  | none =>
    match bytes.toList.mapM latin9? with
    | some cs => String.ofList cs
    | none => String.ofList (decodeUtf8From none bytes.toList)

end BuiltinAtlas.Text
