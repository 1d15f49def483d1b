import BuiltinAtlas.Proofs.Source.Bytes

/-!
# The bytes of UTF-8

`isValidUTF8_iff`: bytes are those of a text if one character stands behind the other, where
`IsCharacter` says byte by byte what a character is. Overlong forms, surrogates and what is beyond
the last character are kept out by the range of the second byte.
-/

namespace BuiltinAtlas.Text

/-- A byte that is not the first one of a character. -/
def IsTail (b : UInt8) : Prop := 0x80 ≤ b ∧ b ≤ 0xBF

/-- The bytes of a character. -/
inductive IsCharacter : List UInt8 → Prop
  | one {a : UInt8} : a ≤ 0x7F → IsCharacter [a]
  | two {a b : UInt8} : 0xC2 ≤ a → a ≤ 0xDF → IsTail b → IsCharacter [a, b]
  /-- There is a shorter form for what `E0` makes of low bytes, and `ED` begins surrogates. -/
  | three {a b c : UInt8} : 0xE0 ≤ a → a ≤ 0xEF → (a = 0xE0 → 0xA0 ≤ b) → (a = 0xED → b ≤ 0x9F) →
      IsTail b → IsTail c → IsCharacter [a, b, c]
  /-- There is a shorter form for what `F0` makes of low bytes, and `F4` begins the last
  characters. -/
  | four {a b c d : UInt8} : 0xF0 ≤ a → a ≤ 0xF4 → (a = 0xF0 → 0x90 ≤ b) → (a = 0xF4 → b ≤ 0x8F) →
      IsTail b → IsTail c → IsTail d → IsCharacter [a, b, c, d]

/-- The bytes of characters that stand one behind the other. -/
inductive IsUtf8 : List UInt8 → Prop
  | nil : IsUtf8 []
  | append {first rest : List UInt8} : IsCharacter first → IsUtf8 rest → IsUtf8 (first ++ rest)

private theorem toNat_val_ofNat {n : Nat} (valid : n.isValidChar) :
    (Char.ofNat n).val.toNat = n := by
  rw [Char.ofNat, dif_pos valid]
  rfl

private theorem ofNat_eq_of_toNat {n : Nat} {b : UInt8} (h : n = b.toNat) : UInt8.ofNat n = b := by
  rw [h, UInt8.ofNat_toNat]

/-- A character is written as one. -/
theorem isCharacter_utf8EncodeChar (c : Char) : IsCharacter (String.utf8EncodeChar c) := by
  have valid : c.val.toNat < 0xD800 ∨ 0xDFFF < c.val.toNat ∧ c.val.toNat < 0x110000 := c.valid
  unfold String.utf8EncodeChar
  generalize c.val.toNat = n at valid
  dsimp only
  split
  · apply IsCharacter.one
    rw [UInt8.le_iff_toNat_le]
    simp only [UInt8.toNat_ofNat', UInt8.reduceToNat]
    omega
  · split
    · apply IsCharacter.two <;>
        simp only [IsTail, UInt8.le_iff_toNat_le, UInt8.toNat_ofNat', UInt8.reduceToNat] <;> omega
    · split
      · apply IsCharacter.three <;>
          simp only [IsTail, UInt8.le_iff_toNat_le, ← UInt8.toNat_inj, UInt8.toNat_ofNat',
            UInt8.reduceToNat] <;> omega
      · apply IsCharacter.four <;>
          simp only [IsTail, UInt8.le_iff_toNat_le, ← UInt8.toNat_inj, UInt8.toNat_ofNat',
            UInt8.reduceToNat] <;> omega

private theorem IsCharacter.exists_utf8EncodeChar {bs : List UInt8} (h : IsCharacter bs) :
    ∃ c, String.utf8EncodeChar c = bs := by
  cases h with
  | @one a small =>
    simp only [UInt8.le_iff_toNat_le, UInt8.reduceToNat] at small
    have valid : a.toNat.isValidChar := .inl (by omega)
    refine ⟨Char.ofNat a.toNat, ?_⟩
    rw [String.utf8EncodeChar, toNat_val_ofNat valid, if_pos small, UInt8.ofNat_toNat]
  | @two a b low high tail =>
    simp only [IsTail, UInt8.le_iff_toNat_le, UInt8.reduceToNat] at low high tail
    obtain ⟨n, value⟩ : ∃ n, n = a.toNat % 32 * 64 + b.toNat % 64 := ⟨_, rfl⟩
    have valid : n.isValidChar := .inl (by omega)
    refine ⟨Char.ofNat n, ?_⟩
    rw [String.utf8EncodeChar, toNat_val_ofNat valid, if_neg (by omega), if_pos (by omega)]
    rw [ofNat_eq_of_toNat (b := a) (by omega), ofNat_eq_of_toNat (b := b) (by omega)]
  | @three a b c low high least greatest tail tail' =>
    simp only [IsTail, UInt8.le_iff_toNat_le, ← UInt8.toNat_inj, UInt8.reduceToNat]
      at low high least greatest tail tail'
    obtain ⟨n, value⟩ : ∃ n, n = a.toNat % 16 * 4096 + b.toNat % 64 * 64 + c.toNat % 64 := ⟨_, rfl⟩
    have valid : n < 0xD800 ∨ 0xDFFF < n ∧ n < 0x110000 := by omega
    refine ⟨Char.ofNat n, ?_⟩
    rw [String.utf8EncodeChar, toNat_val_ofNat valid, if_neg (by omega), if_neg (by omega),
      if_pos (by omega)]
    rw [ofNat_eq_of_toNat (b := a) (by omega), ofNat_eq_of_toNat (b := b) (by omega),
      ofNat_eq_of_toNat (b := c) (by omega)]
  | @four a b c d low high least greatest tail tail' tail'' =>
    simp only [IsTail, UInt8.le_iff_toNat_le, ← UInt8.toNat_inj, UInt8.reduceToNat]
      at low high least greatest tail tail' tail''
    obtain ⟨n, value⟩ : ∃ n, n = a.toNat % 8 * 262144 + b.toNat % 64 * 4096 + c.toNat % 64 * 64 +
        d.toNat % 64 := ⟨_, rfl⟩
    have valid : n < 0xD800 ∨ 0xDFFF < n ∧ n < 0x110000 := by omega
    refine ⟨Char.ofNat n, ?_⟩
    rw [String.utf8EncodeChar, toNat_val_ofNat valid, if_neg (by omega), if_neg (by omega),
      if_neg (by omega)]
    rw [ofNat_eq_of_toNat (b := a) (by omega), ofNat_eq_of_toNat (b := b) (by omega),
      ofNat_eq_of_toNat (b := c) (by omega), ofNat_eq_of_toNat (b := d) (by omega)]

private theorem isUtf8_iff {bs : List UInt8} :
    IsUtf8 bs ↔ ∃ cs : List Char, cs.flatMap String.utf8EncodeChar = bs := by
  constructor
  · intro h
    induction h with
    | nil => exact ⟨[], rfl⟩
    | append character _ ih =>
      obtain ⟨c, rfl⟩ := character.exists_utf8EncodeChar
      obtain ⟨cs, rfl⟩ := ih
      exact ⟨c :: cs, rfl⟩
  · rintro ⟨cs, rfl⟩
    induction cs with
    | nil => exact .nil
    | cons c cs ih =>
      rw [List.flatMap_cons]
      exact .append (isCharacter_utf8EncodeChar c) ih

/-- Bytes are those of a text if they are UTF-8 byte by byte. -/
theorem isValidUTF8_iff {b : ByteArray} : b.IsValidUTF8 ↔ IsUtf8 b.toList := by
  rw [isUtf8_iff]
  constructor
  · rintro ⟨cs, rfl⟩
    exact ⟨cs, by rw [Source.toList_eq, List.utf8Encode, List.data_toByteArray]⟩
  · rintro ⟨cs, same⟩
    refine ⟨cs, Source.toList_inj.mp ?_⟩
    rw [← same, Source.toList_eq, List.utf8Encode, List.data_toByteArray]

end BuiltinAtlas.Text
