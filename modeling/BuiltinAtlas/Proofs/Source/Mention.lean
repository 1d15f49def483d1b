import BuiltinAtlas.Proofs.Source.Bytes
import BuiltinAtlas.Source.HeadMacro

/-!
# Mentions of head macros

The scanner finds the first mention of a head macro behind an offset, whatever stands in front of it
(`nextMacro_eq_some_iff`), and it sees whether the line of an offset is a directive
(`inDirective_iff`). Two mentions never overlap (`Mention.apart`).
-/

namespace BuiltinAtlas.Source

/-- The names of the head macros. -/
def macroNames : List String := ["PyVarObject_HEAD_INIT", "PyObject_HEAD_INIT"]

/-- The name of a head macro stands at an offset, and a parenthesis is opened directly behind it. -/
def Named (s : List UInt8) (start opening : Nat) : Prop :=
  ∃ name ∈ macroNames, (name ++ "(").toUTF8.toList <+: s.drop start ∧
    opening = start + name.utf8ByteSize

/-- The name of a head macro is not the end of a longer word. -/
structure Mention (s : List UInt8) (start opening : Nat) : Prop where
  named : Named s start opening
  whole : ∀ b, 0 < start → s[start - 1]? = some b → isWordByte b = false

/-- The line of an offset begins like a directive: the first byte that is not a blank, a tab, a
carriage return or a form feed is a number sign. -/
def OnDirective (s : List UInt8) (offset : Nat) : Prop :=
  ∃ before blanks rest, s.take offset = before ++ (blanks ++ 35 :: rest) ∧
    (before = [] ∨ before.getLast? = some 10) ∧
    (∀ b ∈ blanks, b = 32 ∨ b = 9 ∨ b = 13 ∨ b = 12) ∧ 10 ∉ rest

variable {s : List UInt8} {start opening : Nat}

/-! ### The macros -/

private theorem headMacros_eq : headMacros = macroNames.map fun name ↦ (name ++ "(").toUTF8 := rfl

private theorem toList_opened (name : String) :
    (name ++ "(").toUTF8.toList = name.toUTF8.toList ++ [40] := by
  rw [String.toUTF8, String.toByteArray_append, toList_append, String.toUTF8]
  congr 1
  rw [toList_eq]
  rfl

private theorem length_name (name : String) : name.toUTF8.toList.length = name.utf8ByteSize := by
  rw [length_toList, String.toUTF8, String.size_toByteArray]

private theorem bytes_of_mem_macroNames {name : String} (h : name ∈ macroNames) :
    name.toUTF8.toList.head? = some 80 ∧ 18 ≤ name.utf8ByteSize ∧
      ∀ b ∈ name.toUTF8.toList, isWordByte b = true := by
  rw [toList_eq]
  revert name
  decide +kernel

private theorem named_iff : Named s start opening ↔
    ∃ m ∈ headMacros, m.toList <+: s.drop start ∧ opening + 1 = start + m.size := by
  have size (name : String) : (name ++ "(").toUTF8.size = name.utf8ByteSize + 1 := by
    rw [← length_toList, toList_opened, List.length_append, length_name, List.length_singleton]
  constructor
  · rintro ⟨name, mem, stands, rfl⟩
    refine ⟨(name ++ "(").toUTF8, ?_, stands, by rw [size, Nat.add_assoc]⟩
    rw [headMacros_eq]
    exact List.mem_map_of_mem mem
  · rintro ⟨m, mem, stands, same⟩
    rw [headMacros_eq] at mem
    obtain ⟨name, known, rfl⟩ := List.mem_map.mp mem
    rw [size] at same
    exact ⟨name, known, stands, Nat.succ.inj same⟩

namespace Named

/-- A name begins with a capital P, ends with a parenthesis, and has only word bytes in between. -/
theorem bytes (h : Named s start opening) :
    s[start]? = some 80 ∧ s[opening]? = some 40 ∧ start + 18 ≤ opening ∧
      ∀ i, start ≤ i → i < opening → ∃ b, s[i]? = some b ∧ isWordByte b = true := by
  obtain ⟨name, mem, ⟨rest, split⟩, rfl⟩ := h
  obtain ⟨first, long, words⟩ := bytes_of_mem_macroNames mem
  rw [toList_opened, List.append_assoc, List.singleton_append] at split
  have length := length_name name
  have byte (i : Nat) : s[start + i]? = (name.toUTF8.toList ++ 40 :: rest)[i]? := by
    rw [← List.getElem?_drop, split]
  refine ⟨?_, ?_, by omega, fun i from_ before ↦ ?_⟩
  · rw [← Nat.add_zero start, byte, List.getElem?_append_left (by omega), ← List.head?_eq_getElem?,
      first]
  · rw [byte, List.getElem?_append_right (by omega), length, Nat.sub_self]
    rfl
  · obtain ⟨k, rfl⟩ := Nat.exists_eq_add_of_le from_
    have inside : k < name.toUTF8.toList.length := by omega
    refine ⟨name.toUTF8.toList[k], ?_, words _ (List.getElem_mem inside)⟩
    rw [byte, List.getElem?_append_left inside, List.getElem?_eq_getElem inside]

/-- A name and its parenthesis are on one line. -/
theorem lineFeed_not_mem (h : Named s start opening) : 10 ∉ stretch s start (opening + 1) := by
  obtain ⟨-, parenthesis, long, words⟩ := h.bytes
  rw [stretch_append (i := opening) (by omega) (by omega), stretch_succ, parenthesis,
    List.mem_append]
  rintro (mem | mem)
  · obtain ⟨i, byte⟩ := List.mem_iff_getElem?.mp mem
    have inside := (List.getElem?_eq_some_iff.mp byte).1
    rw [stretch, List.length_take] at inside
    rw [getElem?_stretch (by omega)] at byte
    obtain ⟨b, here, word⟩ := words (start + i) (by omega) (by omega)
    cases byte.symm.trans here
    cases word
  · cases List.mem_singleton.mp mem

/-- One name begins at an offset. -/
theorem eq {opening' : Nat} (h : Named s start opening) (h' : Named s start opening') :
    opening = opening' := by
  -- If one name were shorter, the parenthesis behind it would be a word byte of the longer one.
  have notShorter {p q : Nat} (hp : Named s start p) (hq : Named s start q) : ¬ p < q := by
    intro shorter
    obtain ⟨-, parenthesis, long, -⟩ := hp.bytes
    obtain ⟨-, -, -, words⟩ := hq.bytes
    obtain ⟨b, here, word⟩ := words p (by omega) shorter
    cases parenthesis.symm.trans here
    cases word
  have := notShorter h h'
  have := notShorter h' h
  omega

/-- No closing parenthesis is inside of a name. -/
theorem lt_of_closing {closing : Nat} (h : Named s start opening) (from_ : start ≤ closing)
    (closes : s[closing]? = some 41) : opening < closing := by
  obtain ⟨-, parenthesis, -, words⟩ := h.bytes
  rcases Nat.lt_trichotomy closing opening with before | rfl | behind
  · obtain ⟨b, here, word⟩ := words closing from_ before
    cases closes.symm.trans here
    cases word
  · cases closes.symm.trans parenthesis
  · exact behind

end Named

/-- Two mentions do not overlap. -/
theorem Mention.apart {start' opening' : Nat} (h : Mention s start opening)
    (h' : Mention s start' opening') (before : start < start') : opening < start' := by
  rcases Nat.lt_or_ge opening start' with behind | inside
  · exact behind
  · -- The byte in front of the second name would be a word byte of the first one.
    obtain ⟨-, -, -, words⟩ := h.named.bytes
    obtain ⟨b, here, word⟩ := words (start' - 1) (by omega) (by omega)
    rw [h'.whole b (by omega) here] at word
    cases word

/-! ### The scanner -/

private theorem wordStandsAt_iff {source m : ByteArray} (nonempty : 0 < m.size) {offset : Nat} :
    wordStandsAt source m offset = true ↔ m.toList <+: source.toList.drop offset ∧
      ∀ b, 0 < offset → source.toList[offset - 1]? = some b → isWordByte b = false := by
  have stands : standsAt source m offset = true ↔ m.toList <+: source.toList.drop offset := by
    have cut : (source.extract offset (offset + m.size)).toList =
        (source.toList.drop offset).take m.toList.length := by
      rw [toList_extract, stretch, Nat.add_sub_cancel_left, length_toList]
    rw [standsAt, Bool.and_eq_true, decide_eq_true_iff, beq_eq_true_iff, ← toList_inj, cut,
      List.prefix_iff_eq_take, eq_comm (a := m.toList)]
    constructor
    · exact And.right
    · intro same
      refine ⟨?_, same⟩
      have length := congrArg List.length same
      rw [List.length_take, List.length_drop, length_toList, length_toList] at length
      omega
  have whole : (offset == 0 || !isWordByte ((source[offset - 1]?).getD 0)) = true ↔
      ∀ b, 0 < offset → source.toList[offset - 1]? = some b → isWordByte b = false := by
    rw [getElem?_toList]
    cases source[offset - 1]? with
    | none => simp [isWordByte]
    | some b => simp [Nat.pos_iff_ne_zero, Decidable.or_iff_not_imp_left]
  rw [wordStandsAt, Bool.and_eq_true, stands, whole]

private theorem find?_wordStandsAt_eq_some_iff {source : ByteArray} {offset length : Nat} :
    (headMacros.find? fun m ↦ wordStandsAt source m offset).map (·.size) = some length ↔
      Mention source.toList offset (offset + length - 1) := by
  have nonempty {m : ByteArray} (mem : m ∈ headMacros) : 0 < m.size := by
    revert m
    decide
  have mention {m : ByteArray}
      (found : headMacros.find? (fun m ↦ wordStandsAt source m offset) = some m) :
      m ∈ headMacros ∧ Mention source.toList offset (offset + m.size - 1) := by
    have mem := List.mem_of_find?_eq_some found
    have stands : wordStandsAt source m offset = true := by simpa using List.find?_some found
    obtain ⟨bytes, whole⟩ := (wordStandsAt_iff (nonempty mem)).mp stands
    have := nonempty mem
    exact ⟨mem, named_iff.mpr ⟨m, mem, bytes, by omega⟩, whole⟩
  rw [Option.map_eq_some_iff]
  constructor
  · rintro ⟨m, found, rfl⟩
    exact (mention found).2
  · intro h
    obtain ⟨m, mem, bytes, last⟩ := named_iff.mp h.named
    have stands := (wordStandsAt_iff (nonempty mem)).mpr ⟨bytes, h.whole⟩
    cases found : headMacros.find? fun m ↦ wordStandsAt source m offset with
    | none => exact absurd stands (List.find?_eq_none.mp found m mem)
    | some m' =>
      obtain ⟨mem', h'⟩ := mention found
      have same := h.named.eq h'.named
      obtain ⟨-, -, long, -⟩ := h.named.bytes
      have := nonempty mem'
      have size : m'.size = length := by omega
      exact ⟨m', rfl, size⟩

private theorem find?_wordStandsAt_eq_none_iff {source : ByteArray} {offset : Nat} :
    (headMacros.find? fun m ↦ wordStandsAt source m offset).map (·.size) = none ↔
      ∀ opening, ¬ Mention source.toList offset opening := by
  rw [Option.eq_none_iff_forall_ne_some]
  constructor
  · intro none opening h
    obtain ⟨-, -, long, -⟩ := h.named.bytes
    have same : offset + (opening + 1 - offset) - 1 = opening := by omega
    exact none _ (find?_wordStandsAt_eq_some_iff.mpr (same.symm ▸ h))
  · intro none length found
    exact none _ (find?_wordStandsAt_eq_some_iff.mp found)

private theorem findSome?_range'_eq_some_iff {β : Type _} {f : Nat → Option β} {count : Nat}
    {b : β} :
    (List.range' start count).findSome? f = some b ↔
      ∃ i, start ≤ i ∧ i < start + count ∧ f i = some b ∧ ∀ j, start ≤ j → j < i → f j = none := by
  induction count generalizing start with
  | zero =>
    simp only [List.range'_zero, List.findSome?_nil, reduceCtorEq, false_iff]
    rintro ⟨i, from_, before, -⟩
    omega
  | succ count ih =>
    rw [List.range'_succ, List.findSome?_cons]
    cases here : f start with
    | some c =>
      constructor
      · intro same
        refine ⟨start, Nat.le_refl start, by omega, here.trans same, fun j from_ before ↦ ?_⟩
        omega
      · rintro ⟨i, from_, -, found, first⟩
        rcases Nat.eq_or_lt_of_le from_ with rfl | later
        · exact here.symm.trans found
        · have no := first start (Nat.le_refl start) later
          cases here.symm.trans no
    | none =>
      simp only
      rw [ih]
      constructor
      · rintro ⟨i, from_, before, found, first⟩
        refine ⟨i, by omega, by omega, found, fun j from_' before' ↦ ?_⟩
        rcases Nat.eq_or_lt_of_le from_' with rfl | later
        · exact here
        · exact first j later before'
      · rintro ⟨i, from_, before, found, first⟩
        have different : start ≠ i := by
          rintro rfl
          cases here.symm.trans found
        exact ⟨i, by omega, by omega, found, fun j from_' ↦ first j (by omega)⟩

private theorem nextMacro_eq (source : ByteArray) (start : Nat) : nextMacro source start =
    (List.range' start (source.size - start)).findSome? fun i ↦
      ((headMacros.find? fun m ↦ wordStandsAt source m i).map (·.size)).map (i, ·) := by
  simp only [nextMacro, Option.map_map]
  rfl

/-- The scanner finds the first mention behind an offset. -/
theorem nextMacro_eq_some_iff {source : ByteArray} {at_ length : Nat} :
    nextMacro source start = some (at_, length) ↔
      start ≤ at_ ∧ Mention source.toList at_ (at_ + length - 1) ∧
        ∀ i, start ≤ i → i < at_ → ∀ opening, ¬ Mention source.toList i opening := by
  simp only [nextMacro_eq, findSome?_range'_eq_some_iff, Option.map_eq_none_iff (f := (_, ·)),
    Option.map_eq_some_iff (f := (_, ·)), find?_wordStandsAt_eq_some_iff,
    find?_wordStandsAt_eq_none_iff]
  constructor
  · rintro ⟨i, from_, -, ⟨n, mention, same⟩, first⟩
    cases same
    exact ⟨from_, mention, first⟩
  · rintro ⟨from_, mention, first⟩
    obtain ⟨here, -⟩ := mention.named.bytes
    have inside := (List.getElem?_eq_some_iff.mp here).1
    rw [length_toList] at inside
    exact ⟨at_, from_, by omega, ⟨length, mention, rfl⟩, first⟩

/-- The scanner finds nothing if there is no mention behind the offset. -/
theorem nextMacro_eq_none_iff {source : ByteArray} :
    nextMacro source start = none ↔
      ∀ i, start ≤ i → ∀ opening, ¬ Mention source.toList i opening := by
  simp only [nextMacro_eq, List.findSome?_eq_none_iff, Option.map_eq_none_iff (f := (_, ·)),
    find?_wordStandsAt_eq_none_iff, List.mem_range'_1]
  constructor
  · intro none i from_ opening mention
    obtain ⟨here, -⟩ := mention.named.bytes
    have inside := (List.getElem?_eq_some_iff.mp here).1
    rw [length_toList] at inside
    exact none i (by omega) opening mention
  · intro none i range
    exact none i range.1

private theorem reverse_takeWhile_reverse_iff {l line : List UInt8} :
    (l.reverse.takeWhile (· != 10)).reverse = line ↔
      ∃ before, l = before ++ line ∧ (before = [] ∨ before.getLast? = some 10) ∧ 10 ∉ line := by
  constructor
  · rintro rfl
    refine ⟨(l.reverse.dropWhile (· != 10)).reverse, ?_, ?_, ?_⟩
    · rw [← List.reverse_append, List.takeWhile_append_dropWhile, List.reverse_reverse]
    · have other := List.head?_dropWhile_not (· != 10) l.reverse
      rw [List.getLast?_reverse, List.reverse_eq_nil_iff, ← List.head?_eq_none_iff]
      cases first : (l.reverse.dropWhile (· != 10)).head? with
      | none => exact .inl rfl
      | some b =>
        rw [first] at other
        simp at other
        exact .inr (congrArg some other)
    · intro mem
      have other := List.all_eq_true.mp List.all_takeWhile 10 (List.mem_reverse.mp mem)
      simp at other
  · rintro ⟨before, rfl, start, whole⟩
    have all : ∀ b ∈ line.reverse, (b != 10) = true := by
      intro b mem
      refine bne_iff_ne.mpr ?_
      rintro rfl
      exact whole (List.mem_reverse.mp mem)
    rw [List.reverse_append, List.takeWhile_append_of_pos all]
    have stops : before.reverse.takeWhile (· != 10) = [] := by
      rcases start with rfl | last
      · rfl
      · rw [← List.head?_reverse] at last
        obtain ⟨_, rest⟩ := List.head?_eq_some_iff.mp last
        rw [rest]
        rfl
    rw [stops, List.append_nil, List.reverse_reverse]

/-- A line is a directive if the scanner sees it as one. -/
theorem inDirective_iff {source : ByteArray} {offset : Nat} :
    inDirective source offset = true ↔ OnDirective source.toList offset := by
  have blank {b : UInt8} (inside : b ≠ 10) :
      isBlankByte b = true ↔ b = 32 ∨ b = 9 ∨ b = 13 ∨ b = 12 := by
    simp only [isBlankByte, Bool.or_eq_true, beq_iff_eq, inside, or_false, or_assoc]
    rw [or_comm (a := b = 12)]
  simp only [inDirective, beq_iff_eq, List.find?_eq_some_iff_append, Bool.not_not,
    reverse_takeWhile_reverse_iff]
  constructor
  · rintro ⟨-, blanks, rest, ⟨before, split, start, whole⟩, all⟩
    simp only [List.mem_append, List.mem_cons, not_or] at whole
    refine ⟨before, blanks, rest, split, start, fun b mem ↦ ?_, whole.2.2⟩
    refine (blank ?_).mp (all b mem)
    rintro rfl
    exact whole.1 mem
  · rintro ⟨before, blanks, rest, split, start, all, whole⟩
    have inside (b : UInt8) (mem : b ∈ blanks) : b ≠ 10 := by
      rintro rfl
      simpa using all 10 mem
    refine ⟨rfl, blanks, rest, ⟨before, split, start, ?_⟩, fun b mem ↦ ?_⟩
    · simp only [List.mem_append, List.mem_cons, not_or]
      exact ⟨fun mem ↦ inside 10 mem rfl, by decide, whole⟩
    · exact (blank (inside b mem)).mpr (all b mem)

end BuiltinAtlas.Source
