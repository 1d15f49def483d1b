import BuiltinAtlas.Text.Raw
import BuiltinAtlas.Proofs.Text.Utf8

/-!
# Raw text that is UTF-8

What a text is written as is read as that text (`RawText.text_ofText`), so that paths in UTF-8 have
the same key only if they are the same.
-/

namespace BuiltinAtlas

namespace Text

variable {a b c d : UInt8}

private theorem continuation?_two (low : 0xC2 ≤ a) (high : a ≤ 0xDF) :
    continuation? a = some (0x80, 0xBF, 0) := by
  simp [continuation?, low, high]

private theorem continuation?_three (low : 0xE0 ≤ a) (high : a ≤ 0xEF)
    (least : a = 0xE0 → 0xA0 ≤ b) (greatest : a = 0xED → b ≤ 0x9F) (tail : IsTail b) :
    ∃ l h, continuation? a = some (l, h, 1) ∧ l ≤ b ∧ b ≤ h := by
  have beyond : ¬ a ≤ 0xDF := by
    simp only [UInt8.le_iff_toNat_le, UInt8.reduceToNat] at low ⊢
    omega
  by_cases first : a = 0xE0
  · exact ⟨0xA0, 0xBF, by simp [continuation?, first], least first, tail.2⟩
  by_cases surrogates : a = 0xED
  · exact ⟨0x80, 0x9F, by simp [continuation?, surrogates], tail.1, greatest surrogates⟩
  have above : 0xE1 ≤ a := by
    simp only [UInt8.le_iff_toNat_le, ← UInt8.toNat_inj, UInt8.reduceToNat] at low first ⊢
    omega
  exact ⟨0x80, 0xBF, by simp [continuation?, beyond, first, surrogates, above, high], tail⟩

private theorem continuation?_four (low : 0xF0 ≤ a) (high : a ≤ 0xF4)
    (least : a = 0xF0 → 0x90 ≤ b) (greatest : a = 0xF4 → b ≤ 0x8F) (tail : IsTail b) :
    ∃ l h, continuation? a = some (l, h, 2) ∧ l ≤ b ∧ b ≤ h := by
  have beyond : ¬ a ≤ 0xEF ∧ ¬ a ≤ 0xDF ∧ a ≠ 0xE0 ∧ a ≠ 0xED := by
    simp only [UInt8.le_iff_toNat_le, ← UInt8.toNat_inj, ne_eq, UInt8.reduceToNat] at low ⊢
    omega
  obtain ⟨above, above', no, no'⟩ := beyond
  by_cases first : a = 0xF0
  · exact ⟨0x90, 0xBF, by simp [continuation?, first], least first, tail.2⟩
  by_cases last : a = 0xF4
  · exact ⟨0x80, 0x8F, by simp [continuation?, last], tail.1, greatest last⟩
  have between : 0xF1 ≤ a ∧ a ≤ 0xF3 := by
    simp only [UInt8.le_iff_toNat_le, ← UInt8.toNat_inj, UInt8.reduceToNat] at low high first last ⊢
    omega
  exact ⟨0x80, 0xBF, by
    simp [continuation?, above, above', no, no', first, between.1, between.2], tail⟩

private theorem decodeUtf8From_one (bs : List UInt8) (small : a < 128) :
    decodeUtf8From none (a :: bs) = Char.ofNat a.toNat :: decodeUtf8From none bs := by
  rw [decodeUtf8From]
  exact if_pos small

private theorem decodeUtf8From_first {low high : UInt8} {more : Nat} (bs : List UInt8)
    (large : 0x80 ≤ a) (goesOn : continuation? a = some (low, high, more)) :
    decodeUtf8From none (a :: bs) =
      decodeUtf8From (some ⟨a.toNat % 1 <<< (5 - more), low, high, more⟩) bs := by
  have notSmall : ¬ a < 128 := by
    simp only [UInt8.le_iff_toNat_le, UInt8.lt_iff_toNat_lt, UInt8.reduceToNat] at large ⊢
    omega
  rw [decodeUtf8From]
  simp only [if_neg notSmall, goesOn]

private theorem decodeUtf8From_tail {value : Nat} {low high : UInt8} (more : Nat) (bs : List UInt8)
    (least : low ≤ b) (greatest : b ≤ high) :
    decodeUtf8From (some ⟨value, low, high, more + 1⟩) (b :: bs) =
      decodeUtf8From (some ⟨value * 64 + b.toNat % 64, 0x80, 0xBF, more⟩) bs := by
  rw [decodeUtf8From]
  simp only [least, greatest, decide_true, Bool.and_true, if_true]

private theorem decodeUtf8From_last {value : Nat} {low high : UInt8} (bs : List UInt8)
    (least : low ≤ b) (greatest : b ≤ high) :
    decodeUtf8From (some ⟨value, low, high, 0⟩) (b :: bs) =
      Char.ofNat (value * 64 + b.toNat % 64) :: decodeUtf8From none bs := by
  rw [decodeUtf8From]
  simp only [least, greatest, decide_true, Bool.and_true, if_true]

/-- The number of a character with some bytes. -/
def valueOf : List UInt8 → Nat
  | [a] => a.toNat
  | [a, b] => a.toNat % 32 * 64 + b.toNat % 64
  | [a, b, c] => (a.toNat % 16 * 64 + b.toNat % 64) * 64 + c.toNat % 64
  | [a, b, c, d] => ((a.toNat % 8 * 64 + b.toNat % 64) * 64 + c.toNat % 64) * 64 + d.toNat % 64
  | _ => 0

private theorem IsCharacter.decodeUtf8From {first : List UInt8} (h : IsCharacter first)
    (bs : List UInt8) :
    decodeUtf8From none (first ++ bs) = Char.ofNat (valueOf first) :: decodeUtf8From none bs := by
  cases h with
  | @one a small =>
    refine decodeUtf8From_one bs ?_
    simp only [UInt8.le_iff_toNat_le, UInt8.lt_iff_toNat_lt, UInt8.reduceToNat] at small ⊢
    omega
  | @two a b low high tail =>
    rw [List.cons_append, decodeUtf8From_first _ (UInt8.le_trans (by decide) low)
      (continuation?_two low high)]
    exact decodeUtf8From_last bs tail.1 tail.2
  | @three a b c low high least greatest tail tail' =>
    obtain ⟨l, h, goesOn, above, below⟩ := continuation?_three low high least greatest tail
    rw [List.cons_append, decodeUtf8From_first _ (UInt8.le_trans (by decide) low) goesOn]
    exact (decodeUtf8From_tail 0 _ above below).trans (decodeUtf8From_last bs tail'.1 tail'.2)
  | @four a b c d low high least greatest tail tail' tail'' =>
    obtain ⟨l, h, goesOn, above, below⟩ := continuation?_four low high least greatest tail
    rw [List.cons_append, decodeUtf8From_first _ (UInt8.le_trans (by decide) low) goesOn]
    exact (decodeUtf8From_tail 1 _ above below).trans
      ((decodeUtf8From_tail 0 _ tail'.1 tail'.2).trans
        (decodeUtf8From_last bs tail''.1 tail''.2))

private theorem valueOf_utf8EncodeChar (c : Char) :
    valueOf (String.utf8EncodeChar c) = c.toNat := by
  have valid : c.val.toNat < 0xD800 ∨ 0xDFFF < c.val.toNat ∧ c.val.toNat < 0x110000 := c.valid
  rw [Char.toNat]
  unfold String.utf8EncodeChar
  generalize c.val.toNat = n at valid
  dsimp only
  split
  · simp only [valueOf, UInt8.toNat_ofNat']
    omega
  · split
    · simp only [valueOf, UInt8.toNat_ofNat']
      omega
    · split
      · simp only [valueOf, UInt8.toNat_ofNat']
        omega
      · simp only [valueOf, UInt8.toNat_ofNat']
        omega

end Text

/-- A text is read as it is written. -/
@[simp] theorem RawText.text_ofText (s : String) : (ofText s).text = s := by
  have read (cs : List Char) :
      Text.decodeUtf8From none (cs.flatMap String.utf8EncodeChar) = cs := by
    induction cs with
    | nil => rfl
    | cons c cs ih =>
      rw [List.flatMap_cons, (Text.isCharacter_utf8EncodeChar c).decodeUtf8From, ih,
        Text.valueOf_utf8EncodeChar, Char.ofNat_toNat]
  have bytes : s.toUTF8.data.toList = s.toList.flatMap String.utf8EncodeChar := by
    rw [String.toUTF8, ← String.utf8Encode_toList, List.utf8Encode, List.data_toByteArray]
  rw [text, ofText, bytes, read, String.ofList_toList]
end BuiltinAtlas
