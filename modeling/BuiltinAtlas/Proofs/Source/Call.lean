import BuiltinAtlas.Proofs.Source.Mention
import BuiltinAtlas.Proofs.Source.Parentheses

/-!
# Calls of head macros

A call is a mention whose parenthesis is closed. The scanner goes from one call to the next, jumps
over what stands between the parentheses, and gives up at a mention that is not closed. So it meets
a call if and only if that is not inside of another one and all mentions in front of it are closed
(`mem_callsFrom_iff`).
-/

namespace BuiltinAtlas.Source

/-- Where the name of a macro begins, and where its parentheses are. -/
structure Call where
  start : Nat
  opening : Nat
  closing : Nat
  deriving DecidableEq

namespace Call

/-- The macro is mentioned, and the one parenthesis balances the other. -/
structure StandsIn (c : Call) (s : List UInt8) : Prop where
  mention : Mention s c.start c.opening
  closes : Closes s c.opening c.closing

/-- An offset is between the parentheses. -/
def Encloses (c : Call) (offset : Nat) : Prop := c.opening < offset ∧ offset < c.closing

variable {s : List UInt8} {c d : Call}

namespace StandsIn

/-- The parts of a call are in order, and the name is long. -/
theorem bounds (h : c.StandsIn s) :
    c.start + 18 ≤ c.opening ∧ c.opening < c.closing ∧ c.closing < s.length :=
  ⟨h.mention.named.bytes.2.2.1, h.closes.after, h.closes.inside⟩

/-- One call begins at an offset. -/
theorem eq (h : c.StandsIn s) (h' : d.StandsIn s) (same : c.start = d.start) : c = d := by
  obtain ⟨start, opening, closing⟩ := c
  obtain ⟨start', opening', closing'⟩ := d
  obtain rfl : start = start' := same
  obtain rfl : opening = opening' := h.mention.named.eq h'.mention.named
  obtain rfl : closing = closing' := h.closes.eq h'.closes
  rfl

/-- A mention that begins behind the start of a call and not behind its end is enclosed, and closed
before the end. -/
theorem nested (h : c.StandsIn s) {start opening : Nat} (mention : Mention s start opening)
    (after : c.start < start) (upTo : start ≤ c.closing) :
    c.Encloses start ∧ ∃ closing, closing < c.closing ∧ Closes s opening closing := by
  have behind := h.mention.apart mention after
  have before := mention.named.lt_of_closing upTo h.closes.closes
  obtain ⟨-, parenthesis, long, -⟩ := mention.named.bytes
  exact ⟨⟨behind, by omega⟩, h.closes.nested (by omega) before parenthesis⟩

end StandsIn

end Call

/-- The next call, unless there is no mention or the next one is not closed. -/
def nextCall? (source : ByteArray) (start : Nat) : Option Call :=
  (nextMacro source start).bind fun (at_, length) ↦
    (closingParen source (at_ + length - 1)).map fun closing ↦ ⟨at_, at_ + length - 1, closing⟩

/-- The calls that the scanner meets from an offset on, at most `fuel` of them. -/
def callsFrom (source : ByteArray) : Nat → Nat → List Call
  | 0, _ => []
  | fuel + 1, start =>
    match nextCall? source start with
    | none => []
    | some c => c :: callsFrom source fuel (c.closing + 1)

/-- A call is met from an offset on: it stands there, is not inside of another one, and all mentions
in front of it are closed. -/
structure Met (s : List UInt8) (start : Nat) (c : Call) : Prop where
  behind : start ≤ c.start
  stands : c.StandsIn s
  outermost : ∀ d : Call, start ≤ d.start → d.StandsIn s → ¬ d.Encloses c.start
  closed : ∀ i opening, start ≤ i → i < c.start → Mention s i opening →
    ∃ closing, Closes s opening closing

variable {source : ByteArray} {start fuel : Nat} {c d : Call}

/-- The next call is the one at the next mention. -/
theorem nextCall?_eq_some_iff : nextCall? source start = some c ↔
    start ≤ c.start ∧ c.StandsIn source.toList ∧
      ∀ i, start ≤ i → i < c.start → ∀ opening, ¬ Mention source.toList i opening := by
  simp only [nextCall?, Option.bind_eq_some_iff, Option.map_eq_some_iff, Prod.exists]
  constructor
  · rintro ⟨at_, length, found, closing, closes, rfl⟩
    obtain ⟨from_, mention, first⟩ := nextMacro_eq_some_iff.mp found
    have parenthesis := mention.named.bytes.2.1
    exact ⟨from_, ⟨mention, (closingParen_eq_some_iff parenthesis).mp closes⟩, first⟩
  · rintro ⟨from_, ⟨mention, closes⟩, first⟩
    have long := mention.named.bytes.2.2.1
    have opening : c.start + (c.opening + 1 - c.start) - 1 = c.opening := by omega
    refine ⟨c.start, c.opening + 1 - c.start, ?_, c.closing, ?_, ?_⟩
    · exact nextMacro_eq_some_iff.mpr ⟨from_, opening.symm ▸ mention, first⟩
    · rw [opening]
      exact (closingParen_eq_some_iff closes.opens).mpr closes
    · rw [opening]

private theorem exists_unclosed_of_nextCall? (none : nextCall? source start = none)
    {i opening : Nat} (from_ : start ≤ i) (mention : Mention source.toList i opening) :
    ∃ j opening', start ≤ j ∧ j ≤ i ∧ Mention source.toList j opening' ∧
      ∀ closing, ¬ Closes source.toList opening' closing := by
  cases next : nextMacro source start with
  | none => exact absurd mention (nextMacro_eq_none_iff.mp next i from_ opening)
  | some found =>
    obtain ⟨at_, length⟩ := found
    obtain ⟨behind, first, least⟩ := nextMacro_eq_some_iff.mp next
    rw [nextCall?, next, Option.bind_some, Option.map_eq_none_iff] at none
    refine ⟨at_, at_ + length - 1, behind, ?_, first, fun closing closes ↦ ?_⟩
    · exact Nat.le_of_not_lt fun before ↦ least i from_ before opening mention
    · rw [(closingParen_eq_some_iff closes.opens).mpr closes] at none
      cases none

private theorem exists_closes_of_nextCall? (next : nextCall? source start = some d)
    {i opening : Nat} (from_ : start ≤ i) (upTo : i ≤ d.closing)
    (mention : Mention source.toList i opening) :
    ∃ closing, closing ≤ d.closing ∧ Closes source.toList opening closing := by
  obtain ⟨-, stands, first⟩ := nextCall?_eq_some_iff.mp next
  rcases Nat.lt_trichotomy i d.start with before | rfl | after
  · exact absurd mention (first i from_ before opening)
  · obtain rfl := stands.mention.named.eq mention.named
    exact ⟨d.closing, Nat.le_refl _, stands.closes⟩
  · obtain ⟨-, closing, before, closes⟩ := stands.nested mention after upTo
    exact ⟨closing, Nat.le_of_lt before, closes⟩

private theorem met_iff_of_nextCall? (next : nextCall? source start = some d) :
    Met source.toList start c ↔ c = d ∨ Met source.toList (d.closing + 1) c := by
  obtain ⟨from_, stands, first⟩ := nextCall?_eq_some_iff.mp next
  have bounds := stands.bounds
  constructor
  · intro met
    have notBefore : d.start ≤ c.start := Nat.le_of_not_lt fun before ↦
      first c.start met.behind before c.opening met.stands.mention
    rcases Nat.eq_or_lt_of_le notBefore with same | later
    · exact .inl (met.stands.eq stands same.symm)
    · have behind : d.closing < c.start := Nat.lt_of_not_le fun upTo ↦
        met.outermost d from_ stands (stands.nested met.stands.mention later upTo).1
      exact .inr ⟨behind, met.stands, fun e later ↦ met.outermost e (by omega),
        fun i opening later ↦ met.closed i opening (by omega)⟩
  · rintro (rfl | met)
    · refine ⟨from_, stands, fun e from_' stands' encloses ↦ ?_,
        fun i opening from_' before mention ↦ ?_⟩
      · have := stands'.bounds
        have := encloses.1
        exact first e.start from_' (by omega) e.opening stands'.mention
      · exact absurd mention (first i from_' before opening)
    · have behind := met.behind
      refine ⟨by omega, met.stands, fun e from_' stands' encloses ↦ ?_,
        fun i opening from_' before mention ↦ ?_⟩
      · rcases Nat.lt_or_ge d.closing e.start with later | upTo
        · exact met.outermost e later stands' encloses
        · -- The other call would end with the next one at the latest.
          obtain ⟨closing, early, closes⟩ :=
            exists_closes_of_nextCall? next from_' upTo stands'.mention
          obtain rfl := stands'.closes.eq closes
          have := encloses.2
          omega
      · rcases Nat.lt_or_ge d.closing i with later | upTo
        · exact met.closed i opening later before mention
        · obtain ⟨closing, -, closes⟩ := exists_closes_of_nextCall? next from_' upTo mention
          exact ⟨closing, closes⟩

/-- With enough rounds the scanner lists the calls that are met. -/
theorem mem_callsFrom_iff (enough : source.size < start + fuel) :
    c ∈ callsFrom source fuel start ↔ Met source.toList start c := by
  induction fuel generalizing start with
  | zero =>
    simp only [callsFrom, List.not_mem_nil, false_iff]
    intro met
    have := met.behind
    have := met.stands.bounds
    rw [length_toList] at this
    omega
  | succ fuel ih =>
    rw [callsFrom]
    cases next : nextCall? source start with
    | none =>
      simp only [List.not_mem_nil, false_iff]
      intro met
      obtain ⟨j, opening, from_, upTo, mention, unclosed⟩ :=
        exists_unclosed_of_nextCall? next met.behind met.stands.mention
      rcases Nat.eq_or_lt_of_le upTo with rfl | before
      · obtain rfl := mention.named.eq met.stands.mention.named
        exact unclosed c.closing met.stands.closes
      · obtain ⟨closing, closes⟩ := met.closed j opening from_ before mention
        exact unclosed closing closes
    | some d =>
      obtain ⟨from_, stands, -⟩ := nextCall?_eq_some_iff.mp next
      have := stands.bounds
      rw [List.mem_cons, met_iff_of_nextCall? next, ih (by omega)]

/-- The calls that the scanner lists follow each other. -/
theorem pairwise_callsFrom (enough : source.size < start + fuel) :
    (callsFrom source fuel start).Pairwise fun c d ↦ c.closing < d.start := by
  induction fuel generalizing start with
  | zero => exact .nil
  | succ fuel ih =>
    rw [callsFrom]
    cases next : nextCall? source start with
    | none => exact .nil
    | some c =>
      obtain ⟨from_, stands, -⟩ := nextCall?_eq_some_iff.mp next
      have := stands.bounds
      have enough' : source.size < c.closing + 1 + fuel := by omega
      exact List.pairwise_cons.mpr
        ⟨fun d mem ↦ ((mem_callsFrom_iff enough').mp mem).behind, ih enough'⟩

end BuiltinAtlas.Source
