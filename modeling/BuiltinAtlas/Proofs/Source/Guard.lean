import BuiltinAtlas.Proofs.Source.Expansion

/-!
# Expansion stays within bounds

`guardedExpandFrom` expands head macros in the same way, but with a guard in front of everything
that could fail: reading or writing a stretch, closing a parenthesis, and beginning one more round.
No guard ever stops it, and the result is the same (`guardedExpandFrom_eq`). So expansion always
ends, and only writes over calls (`expandHeadMacros_inPlace`).
-/

namespace BuiltinAtlas.Source

/-- Why a guard stops an expansion. -/
inductive Trap where
  /-- A stretch is not within the bytes, or not as long as what is written over it. -/
  | outside
  /-- A parenthesis is closed while none is open. -/
  | unopened
  /-- There are too many rounds. -/
  | endless
  deriving DecidableEq

/-- A stretch must be within the bytes. -/
def guardStretch (b : ByteArray) (start stop : Nat) : Except Trap Unit :=
  if start ≤ stop ∧ stop ≤ b.size then .ok () else .error .outside

/-- What is written over a stretch must be as long. -/
def guardLength (b : ByteArray) (length : Nat) : Except Trap Unit :=
  if b.size = length then .ok () else .error .outside

/-- Whether `needle` begins a word at an offset, where the byte in front of it must be there. -/
def guardedWordStandsAt (source needle : ByteArray) (offset : Nat) : Except Trap Bool :=
  if standsAt source needle offset then
    if offset = 0 then .ok true
    else match source[offset - 1]? with
      | none => .error .outside
      | some b => .ok !isWordByte b
  else .ok false

/-- The least offset at which a head macro stands, and the length of the macro. -/
def guardedNextMacro (source : ByteArray) (start : Nat) : Except Trap (Option (Nat × Nat)) := do
  guardStretch source start source.size
  (List.range' start (source.size - start)).findSomeM? fun i ↦ do
    return (← headMacros.findM? fun m ↦ guardedWordStandsAt source m i).map fun m ↦ (i, m.size)

/-- The parenthesis that brings the depth to zero, where no parenthesis may be closed at depth
zero. -/
def guardedClosingFrom : List UInt8 → Nat → Nat → Except Trap (Option Nat)
  | [], _, _ => .ok none
  | b :: bs, offset, depth =>
    if b == 40 then guardedClosingFrom bs (offset + 1) (depth + 1)
    else if b == 41 then
      if depth = 0 then .error .unopened
      else if depth = 1 then .ok (some offset)
      else guardedClosingFrom bs (offset + 1) (depth - 1)
    else guardedClosingFrom bs (offset + 1) depth

/-- The next call, where its name and its parentheses must be within the bytes. -/
def guardedNextCall? (source : ByteArray) (start : Nat) : Except Trap (Option Call) := do
  match ← guardedNextMacro source start with
  | none => return none
  | some (at_, length) =>
    guardStretch source at_ (at_ + length)
    let opening := at_ + length - 1
    match ← guardedClosingFrom (source.toList.drop opening) opening 0 with
    | none => return none
    | some closing => return some ⟨at_, opening, closing⟩

/-- What the scanner makes of a call, where all that it reads must be within the bytes, and what it
writes must be as long as the call. -/
def Call.guardedExpand (source : ByteArray) (out : Option ByteArray) (c : Call) :
    Except Trap (Option ByteArray) := do
  guardStretch source 0 c.start
  if inDirective source c.start then return out
  guardStretch source (c.opening + 1) c.closing
  match replacement? (source.extract (c.opening + 1) c.closing) (c.closing + 1 - c.start) with
  | none => return out
  | some r =>
    let buffer := out.getD source
    guardStretch buffer c.start (c.closing + 1)
    guardLength r (c.closing + 1 - c.start)
    return some (buffer.extract 0 c.start ++ r ++ buffer.extract (c.closing + 1) buffer.size)

/-- Expand the macros from an offset on, where there must be less than `fuel` of them. -/
def guardedExpandFrom (source : ByteArray) :
    Nat → Nat → Option ByteArray → Except Trap (Option ByteArray)
  | 0, _, _ => .error .endless
  | fuel + 1, start, out => do
    match ← guardedNextCall? source start with
    | none => return out
    | some c => guardedExpandFrom source fuel (c.closing + 1) (← c.guardedExpand source out)

/-- A guard does not stop at a stretch within the bytes. -/
theorem guardStretch_of_le {b : ByteArray} {start stop : Nat} (order : start ≤ stop)
    (inside : stop ≤ b.size) : guardStretch b start stop = .ok () := if_pos ⟨order, inside⟩

private theorem guardLength_of_eq {b : ByteArray} {length : Nat} (same : b.size = length) :
    guardLength b length = .ok () := if_pos same

/-- A byte is in front of whatever stands behind the first offset. -/
theorem guardedWordStandsAt_eq (source needle : ByteArray) (offset : Nat) :
    guardedWordStandsAt source needle offset = .ok (wordStandsAt source needle offset) := by
  rw [guardedWordStandsAt, wordStandsAt]
  split
  · next stands =>
    have inside : offset + needle.size ≤ source.size := by
      rw [standsAt, Bool.and_eq_true, decide_eq_true_iff] at stands
      exact stands.1
    rw [stands, Bool.true_and]
    by_cases first : offset = 0
    · simp [first]
    · have byte : source[offset - 1]? = some source[offset - 1] := getElem?_pos ..
      simp [first, byte]
  · next absent => simp [absent]

private theorem guardedNextMacro_eq {source : ByteArray} {start : Nat}
    (from_ : start ≤ source.size) :
    guardedNextMacro source start = .ok (nextMacro source start) := by
  have pure_ (m : ByteArray) (i : Nat) : guardedWordStandsAt source m i =
      pure (wordStandsAt source m i) := guardedWordStandsAt_eq source m i
  rw [guardedNextMacro, guardStretch_of_le from_ (Nat.le_refl _)]
  simp only [pure_, List.findM?_pure, pure_bind, List.findSomeM?_pure]
  rfl

private theorem guardedClosingFrom_eq {bs : List UInt8} {offset depth : Nat}
    (positive : 0 < depth) :
    guardedClosingFrom bs offset depth = .ok (closingFrom bs offset depth) := by
  induction bs generalizing offset depth with
  | nil => rfl
  | cons b bs ih =>
    rw [guardedClosingFrom, closingFrom]
    split
    · exact ih (by omega)
    · split
      · rw [if_neg (by omega)]
        split
        · next last => rw [if_pos (by omega)]
        · next deeper =>
          rw [if_neg (by omega)]
          exact ih (by omega)
      · exact ih positive

/-- From an opening parenthesis on, none is closed too early. -/
theorem guardedClosingFrom_of_open {source : ByteArray} {opening : Nat}
    (opens : source.toList[opening]? = some 40) :
    guardedClosingFrom (source.toList.drop opening) opening 0 =
      .ok (closingParen source opening) := by
  obtain ⟨inside, byte⟩ := List.getElem?_eq_some_iff.mp opens
  have behind : guardedClosingFrom (source.toList.drop (opening + 1)) (opening + 1) (0 + 1) =
      .ok (closingFrom (source.toList.drop (opening + 1)) (opening + 1) (0 + 1)) :=
    guardedClosingFrom_eq (Nat.succ_pos 0)
  rw [closingParen, List.drop_eq_getElem_cons inside, byte]
  exact behind

variable {source : ByteArray} {start fuel : Nat} {out : Option ByteArray} {c : Call}

private theorem guardedNextCall?_eq (from_ : start ≤ source.size) :
    guardedNextCall? source start = .ok (nextCall? source start) := by
  rw [guardedNextCall?, nextCall?, guardedNextMacro_eq from_]
  simp only [bind, Except.bind]
  cases next : nextMacro source start with
  | none => rfl
  | some found =>
    obtain ⟨at_, length⟩ := found
    obtain ⟨-, mention, -⟩ := nextMacro_eq_some_iff.mp next
    obtain ⟨-, parenthesis, long, -⟩ := mention.named.bytes
    have inside := (List.getElem?_eq_some_iff.mp parenthesis).1
    rw [length_toList] at inside
    simp only [guardedClosingFrom_of_open parenthesis, Option.bind_some]
    rw [guardStretch_of_le (by omega) (by omega)]
    cases closingParen source (at_ + length - 1) with
    | none => rfl
    | some closing => rfl

private theorem Call.size_expand (stands : c.StandsIn source.toList)
    (size : (out.getD source).size = source.size) :
    ((c.expand source out).getD source).size = source.size := by
  by_cases directive : OnDirective source.toList c.start
  · rw [c.expand_of_directive out directive, size]
  · obtain ⟨t, expanded, bytes⟩ := c.exists_expand out stands directive
    obtain ⟨long, after, inside⟩ := stands.bounds
    rw [length_toList] at inside
    have within : c.start + (c.fields source.toList).length ≤ (out.getD source).toList.length := by
      rw [stands.length_fields, length_toList]
      omega
    rw [expanded, Option.getD_some, ← length_toList, bytes, length_patch within, length_toList,
      size]

private theorem Call.guardedExpand_eq (stands : c.StandsIn source.toList)
    (size : (out.getD source).size = source.size) :
    c.guardedExpand source out = .ok (c.expand source out) := by
  obtain ⟨long, after, inside⟩ := stands.bounds
  rw [length_toList] at inside
  rw [guardedExpand, expand, guardStretch_of_le (Nat.zero_le c.start) (by omega),
    guardStretch_of_le (by omega) (by omega)]
  by_cases directive : inDirective source c.start
  · simp only [directive]
    rfl
  · obtain ⟨r, replaced, bytes⟩ := stands.exists_replacement
    have asLong : r.size = c.closing + 1 - c.start := by
      rw [← length_toList, bytes, stands.length_fields]
    simp only [directive, replaced]
    rw [guardStretch_of_le (by omega) (by omega), guardLength_of_eq asLong]
    rfl

private theorem guardedExpandFrom_eq (from_ : start ≤ source.size)
    (enough : source.size < start + fuel) (size : (out.getD source).size = source.size) :
    guardedExpandFrom source fuel start out = .ok (expandFrom source fuel start out) := by
  rw [expandFrom_eq_foldl]
  induction fuel generalizing start out with
  | zero => omega
  | succ fuel ih =>
    rw [guardedExpandFrom, callsFrom, guardedNextCall?_eq from_]
    cases next : nextCall? source start with
    | none => rfl
    | some c =>
      obtain ⟨behind, stands, -⟩ := nextCall?_eq_some_iff.mp next
      obtain ⟨long, after, inside⟩ := stands.bounds
      rw [length_toList] at inside
      simp only [bind, Except.bind, Call.guardedExpand_eq stands size, List.foldl_cons]
      exact ih inside (by omega) (Call.size_expand stands size)

private theorem isSome_expandHeadMacros?_iff (source : ByteArray) :
    (expandHeadMacros? source).isSome = true ↔ expandHeadMacros source ≠ source := by
  obtain ⟨rewritten, some⟩ := rewritten_expandHeadMacros source
  constructor
  · intro fresh same
    obtain ⟨c, mem⟩ := List.exists_mem_of_ne_nil _ (some.mp fresh)
    have fields := rewritten.written c mem
    rw [same] at fields
    exact (rewritten.stands c mem).1.fields_ne fields.symm
  · intro different
    cases result : expandHeadMacros? source with
    | some t => rfl
    | none => exact absurd (by rw [expandHeadMacros, result, Option.getD_none]) different

/-- Expansion is in place: nothing stops it, it writes over the calls that are met and not on a
directive, one for one, and it returns new bytes only if they differ. -/
theorem expandHeadMacros_inPlace (source : ByteArray) :
    guardedExpandFrom source (source.size + 1) 0 none = .ok (expandHeadMacros? source) ∧
      ((expandHeadMacros? source).isSome = true ↔ expandHeadMacros source ≠ source) ∧
      ∃ calls, Rewritten source.toList (expandHeadMacros source).toList calls ∧
        ∀ c, c ∈ calls ↔ Met source.toList 0 c ∧ ¬ OnDirective source.toList c.start := by
  have unstopped : guardedExpandFrom source (source.size + 1) 0 none =
      .ok (expandHeadMacros? source) :=
    guardedExpandFrom_eq (Nat.zero_le source.size) (by omega) rfl
  obtain ⟨rewritten, -⟩ := rewritten_expandHeadMacros source
  exact ⟨unstopped, isSome_expandHeadMacros?_iff source, expandedCalls source, rewritten,
    fun _ ↦ mem_expandedCalls_iff⟩

end BuiltinAtlas.Source
