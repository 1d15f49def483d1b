/-!
# SHA-256

`Sha256.hash` is the hash function of FIPS 180-4: the padded message is cut into blocks of 64
bytes, and each block is compressed into a state of eight words. `Sha256.hex` writes the 32 bytes
of the result as 64 lower-case hexadecimal digits.
-/

namespace BuiltinAtlas.Sha256

/-- The state before the first block. -/
def initialState : Vector UInt32 8 :=
  #v[0x6a09e667, 0xbb67ae85, 0x3c6ef372, 0xa54ff53a, 0x510e527f, 0x9b05688c, 0x1f83d9ab, 0x5be0cd19]

/-- The constants of the 64 rounds. -/
def roundConstants : Vector UInt32 64 :=
  #v[0x428a2f98, 0x71374491, 0xb5c0fbcf, 0xe9b5dba5, 0x3956c25b, 0x59f111f1, 0x923f82a4, 0xab1c5ed5,
    0xd807aa98, 0x12835b01, 0x243185be, 0x550c7dc3, 0x72be5d74, 0x80deb1fe, 0x9bdc06a7, 0xc19bf174,
    0xe49b69c1, 0xefbe4786, 0x0fc19dc6, 0x240ca1cc, 0x2de92c6f, 0x4a7484aa, 0x5cb0a9dc, 0x76f988da,
    0x983e5152, 0xa831c66d, 0xb00327c8, 0xbf597fc7, 0xc6e00bf3, 0xd5a79147, 0x06ca6351, 0x14292967,
    0x27b70a85, 0x2e1b2138, 0x4d2c6dfc, 0x53380d13, 0x650a7354, 0x766a0abb, 0x81c2c92e, 0x92722c85,
    0xa2bfe8a1, 0xa81a664b, 0xc24b8b70, 0xc76c51a3, 0xd192e819, 0xd6990624, 0xf40e3585, 0x106aa070,
    0x19a4c116, 0x1e376c08, 0x2748774c, 0x34b0bcb5, 0x391c0cb3, 0x4ed8aa4a, 0x5b9cca4f, 0x682e6ff3,
    0x748f82ee, 0x78a5636f, 0x84c87814, 0x8cc70208, 0x90befffa, 0xa4506ceb, 0xbef9a3f7, 0xc67178f2]

/-- Rotation to the right by 0 < `n` < 32 bits. -/
def rotateRight (x n : UInt32) : UInt32 := (x >>> n) ||| (x <<< (32 - n))

/-- The first mixing function of the message schedule. -/
def smallSigma0 (x : UInt32) : UInt32 := rotateRight x 7 ^^^ rotateRight x 18 ^^^ (x >>> 3)

/-- The second mixing function of the message schedule. -/
def smallSigma1 (x : UInt32) : UInt32 := rotateRight x 17 ^^^ rotateRight x 19 ^^^ (x >>> 10)

/-- The first mixing function of a round. -/
def bigSigma0 (x : UInt32) : UInt32 := rotateRight x 2 ^^^ rotateRight x 13 ^^^ rotateRight x 22

/-- The second mixing function of a round. -/
def bigSigma1 (x : UInt32) : UInt32 := rotateRight x 6 ^^^ rotateRight x 11 ^^^ rotateRight x 25

/-- The bits of `y` where `x` is set, else those of `z`. -/
def choose (x y z : UInt32) : UInt32 := (x &&& y) ^^^ (~~~x &&& z)

/-- The bits that at least two of the words have. -/
def majority (x y z : UInt32) : UInt32 := (x &&& y) ^^^ (x &&& z) ^^^ (y &&& z)

/-- A length as eight bytes, the highest first. -/
def lengthBytes (bits : UInt64) : ByteArray :=
  ⟨Array.ofFn fun i : Fin 8 ↦ (bits >>> (56 - 8 * UInt64.ofNat i.val)).toUInt8⟩

/-- The message, a set bit, as few zeros as fill up a block, and the length of the message in
bits. -/
def pad (message : ByteArray) : ByteArray :=
  let zeros := (119 - message.size % 64) % 64
  message.push 0x80 ++ ⟨Array.replicate zeros 0⟩ ++ lengthBytes (UInt64.ofNat message.size * 8)

/-- The word at an offset, the highest byte first. -/
def wordAt (bytes : ByteArray) (offset : Nat) : UInt32 :=
  let byte i := ((bytes[offset + i]?).getD 0).toUInt32
  (byte 0 <<< 24) ||| (byte 1 <<< 16) ||| (byte 2 <<< 8) ||| byte 3

/-- Continue a schedule by `n` words. Each depends on four of the sixteen before it. -/
def extendSchedule : Nat → Array UInt32 → Array UInt32
  | 0, w => w
  | n + 1, w =>
    let word back := (w[w.size - back]?).getD 0
    extendSchedule n
      (w.push (smallSigma1 (word 2) + word 7 + smallSigma0 (word 15) + word 16))

/-- The 64 words that the block at an offset contributes. -/
def schedule (bytes : ByteArray) (offset : Nat) : Array UInt32 :=
  extendSchedule 48 ((Array.range 16).map fun i ↦ wordAt bytes (offset + 4 * i))

/-- One round, with the sum of its constant and its word of the schedule. -/
def round (s : Vector UInt32 8) (input : UInt32) : Vector UInt32 8 :=
  let t1 := s[7] + bigSigma1 s[4] + choose s[4] s[5] s[6] + input
  let t2 := bigSigma0 s[0] + majority s[0] s[1] s[2]
  #v[t1 + t2, s[0], s[1], s[2], s[3] + t1, s[4], s[5], s[6]]

/-- Compress the block at an offset into the state. -/
def compress (bytes : ByteArray) (s : Vector UInt32 8) (offset : Nat) : Vector UInt32 8 :=
  let inputs := roundConstants.toArray.zipWith (· + ·) (schedule bytes offset)
  Vector.zipWith (· + ·) s (inputs.foldl round s)

/-- The state after all blocks of a message. -/
def finalState (message : ByteArray) : Vector UInt32 8 :=
  let bytes := pad message
  (List.range (bytes.size / 64)).foldl (fun s i ↦ compress bytes s (64 * i)) initialState

/-- The 32 bytes of the hash. -/
def hash (message : ByteArray) : ByteArray :=
  ⟨(finalState message).toArray.flatMap fun (w : UInt32) ↦
    #[(w >>> 24).toUInt8, (w >>> 16).toUInt8, (w >>> 8).toUInt8, w.toUInt8]⟩

/-- The lower-case hexadecimal digit of a number below 16. -/
def hexDigit (n : Nat) : Char := if n < 10 then Char.ofNat (48 + n) else Char.ofNat (87 + n)

/-- The hash as hexadecimal text. -/
def hex (message : ByteArray) : String :=
  String.ofList ((hash message).data.toList.flatMap fun b ↦
    [hexDigit (b.toNat / 16), hexDigit (b.toNat % 16)])

/-- Every digest has 64 digits. -/
theorem length_hex (message : ByteArray) : (hex message).length = 64 := by
  have bytes : (hash message).data.toList.length = 32 := by simp [hash, List.map_const']
  rw [hex, String.length_ofList, List.length_flatMap]
  simp [List.map_const', bytes]

end BuiltinAtlas.Sha256
