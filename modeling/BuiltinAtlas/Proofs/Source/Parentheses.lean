import BuiltinAtlas.Proofs.Source.Bytes
import BuiltinAtlas.Source.HeadMacro
import Mathlib.Data.Nat.Find

/-!
# Balanced parentheses

The closing parenthesis that the scanner finds is the one that balances the opening one
(`closingParen_eq_some_iff`), and if one is opened between these two, it is closed between them as
well (`Closes.nested`).
-/

namespace BuiltinAtlas.Source

/-- How many more parentheses are opened than closed in front of an offset. -/
def level (s : List UInt8) (offset : Nat) : Int :=
  (s.take offset).count 40 - (s.take offset).count 41

/-- The parentheses from an opening one on balance at a closing one for the first time. -/
structure Closes (s : List UInt8) (opening closing : Nat) : Prop where
  opens : s[opening]? = some 40
  after : opening < closing
  inside : closing < s.length
  balanced : level s (closing + 1) = level s opening
  deeper : ∀ i, opening < i → i ≤ closing → level s opening < level s i

variable {s : List UInt8} {opening closing : Nat}

/-- The level changes with the byte at the offset. -/
theorem level_succ (s : List UInt8) (offset : Nat) :
    level s (offset + 1) = level s offset +
      if s[offset]? = some 40 then 1 else if s[offset]? = some 41 then -1 else 0 := by
  rw [level, level, List.take_add_one, List.count_append, List.count_append]
  cases s[offset]? with
  | none => simp
  | some b =>
    by_cases opens : b = 40
    · subst opens
      simp only [Option.toList_some, List.count_singleton_self, List.count_singleton]
      simp
      omega
    · by_cases closes : b = 41
      · subst closes
        simp
        omega
      · simp [opens, closes]

/-- A parenthesis is opened. -/
theorem level_of_open (h : s[opening]? = some 40) :
    level s (opening + 1) = level s opening + 1 := by
  rw [level_succ, if_pos h]

private theorem closingFrom_eq_some_iff {offset depth : Nat} (positive : 0 < depth) :
    closingFrom (s.drop offset) offset depth = some closing ↔
      offset ≤ closing ∧ closing < s.length ∧ level s (closing + 1) + depth = level s offset ∧
        ∀ i, offset ≤ i → i ≤ closing → level s offset < level s i + depth := by
  generalize rest : s.drop offset = bs
  induction bs generalizing offset depth with
  | nil =>
    have short : s.length ≤ offset := List.drop_eq_nil_iff.mp rest
    simp only [closingFrom, reduceCtorEq, false_iff]
    omega
  | cons b bs ih =>
    have here : s[offset]? = some b := by
      rw [← List.head?_drop, rest, List.head?_cons]
    have inside : offset < s.length := (List.getElem?_eq_some_iff.mp here).1
    have next : s.drop (offset + 1) = bs := by
      rw [← List.tail_drop, rest, List.tail_cons]
    have step := level_succ s offset
    rw [here] at step
    -- Behind the byte the search goes on at a depth that has changed as the level has.
    have goesOn {depth' : Nat} (positive' : 0 < depth')
        (same : level s offset + depth' = level s (offset + 1) + depth) :
        closingFrom bs (offset + 1) depth' = some closing ↔
          offset ≤ closing ∧ closing < s.length ∧ level s (closing + 1) + depth = level s offset ∧
            ∀ i, offset ≤ i → i ≤ closing → level s offset < level s i + depth := by
      rw [ih positive' next]
      constructor
      · rintro ⟨before, below, balanced, deeper⟩
        refine ⟨by omega, below, by omega, fun i from_ upTo ↦ ?_⟩
        rcases Nat.eq_or_lt_of_le from_ with rfl | later
        · omega
        · have := deeper i later upTo
          omega
      · rintro ⟨before, below, balanced, deeper⟩
        have different : offset ≠ closing := by
          rintro rfl
          omega
        refine ⟨by omega, below, by omega, fun i from_ upTo ↦ ?_⟩
        have := deeper i (by omega) upTo
        omega
    rw [closingFrom]
    split
    · next opens =>
      obtain rfl := eq_of_beq opens
      exact goesOn (by omega) (by simp at step; omega)
    · next notOpens =>
      split
      · next closes =>
        obtain rfl := eq_of_beq closes
        simp at step
        split
        · next last =>
          constructor
          · intro found
            obtain rfl := Option.some.inj found
            refine ⟨Nat.le_refl _, inside, by omega, fun i from_ upTo ↦ ?_⟩
            obtain rfl := Nat.le_antisymm upTo from_
            omega
          · rintro ⟨before, -, balanced, deeper⟩
            rcases Nat.eq_or_lt_of_le before with rfl | later
            · rfl
            · have := deeper (offset + 1) (by omega) later
              omega
        · exact goesOn (by omega) (by omega)
      · next notCloses =>
        simp only [beq_iff_eq] at notOpens notCloses
        simp only [Option.some.injEq, notOpens, notCloses, if_false] at step
        exact goesOn positive (by omega)

/-- The scanner finds the closing parenthesis that balances an opening one. -/
theorem closingParen_eq_some_iff {source : ByteArray} (opens : source.toList[opening]? = some 40) :
    closingParen source opening = some closing ↔ Closes source.toList opening closing := by
  have inside : opening < source.toList.length := (List.getElem?_eq_some_iff.mp opens).1
  have step := level_of_open opens
  have first : closingParen source opening =
      closingFrom (source.toList.drop (opening + 1)) (opening + 1) 1 := by
    obtain ⟨_, byte⟩ := List.getElem?_eq_some_iff.mp opens
    rw [closingParen, List.drop_eq_getElem_cons inside, byte, closingFrom]
    rfl
  rw [first, closingFrom_eq_some_iff Nat.one_pos]
  constructor
  · rintro ⟨after, below, balanced, deeper⟩
    refine ⟨opens, after, below, by omega, fun i from_ upTo ↦ ?_⟩
    have := deeper i from_ upTo
    omega
  · intro h
    refine ⟨h.after, h.inside, ?_, fun i from_ upTo ↦ ?_⟩
    · have := h.balanced
      omega
    · have := h.deeper i from_ upTo
      omega

namespace Closes

/-- An opening parenthesis is balanced by one closing parenthesis. -/
theorem eq {closing' : Nat} (h : Closes s opening closing) (h' : Closes s opening closing') :
    closing = closing' := by
  rcases Nat.lt_trichotomy closing closing' with less | same | more
  · have := h'.deeper (closing + 1) (by have := h.after; omega) less
    have := h.balanced
    omega
  · exact same
  · have := h.deeper (closing' + 1) (by have := h'.after; omega) more
    have := h'.balanced
    omega

/-- A closing parenthesis stands at the end. -/
theorem closes (h : Closes s opening closing) : s[closing]? = some 41 := by
  have step := level_succ s closing
  have balanced := h.balanced
  have deeper := h.deeper closing h.after (Nat.le_refl closing)
  split at step
  · omega
  · split at step
    · assumption
    · omega

/-- A parenthesis that is opened between two that balance is closed between them. -/
theorem nested (h : Closes s opening closing) {inner : Nat} (after : opening < inner)
    (before : inner < closing) (opens : s[inner]? = some 40) :
    ∃ last, last < closing ∧ Closes s inner last := by
  classical
  have atEnd := h.balanced
  have aroundInner := h.deeper inner after (Nat.le_of_lt before)
  -- The level falls by one for each byte at most, so that the first time it is not above that at
  -- the inner parenthesis it is just that, while it is below that at the end.
  have falls : ∃ i, inner < i ∧ level s (i + 1) ≤ level s inner := ⟨closing, before, by omega⟩
  obtain ⟨last, ⟨past, low⟩, upTo, first⟩ :
      ∃ last, (inner < last ∧ level s (last + 1) ≤ level s inner) ∧
        last ≤ closing ∧ ∀ k < last, ¬ (inner < k ∧ level s (k + 1) ≤ level s inner) :=
    ⟨Nat.find falls, Nat.find_spec falls, Nat.find_min' falls ⟨before, by omega⟩,
      fun _ ↦ Nat.find_min falls⟩
  have deeper (i : Nat) (from_ : inner < i) (notPast : i ≤ last) : level s inner < level s i := by
    cases i with
    | zero => omega
    | succ k =>
      rcases Nat.eq_or_lt_of_le (Nat.le_of_lt_succ from_) with rfl | later
      · have := level_of_open opens
        omega
      · have := first k notPast
        omega
  have balanced : level s (last + 1) = level s inner := by
    have := deeper last past (Nat.le_refl last)
    have step := level_succ s last
    split at step
    · omega
    · split at step
      · omega
      · omega
  have early : last < closing := by
    refine Nat.lt_of_le_of_ne upTo ?_
    rintro rfl
    omega
  exact ⟨last, early, opens, past, Nat.lt_trans early h.inside, balanced, deeper⟩

end Closes

end BuiltinAtlas.Source
