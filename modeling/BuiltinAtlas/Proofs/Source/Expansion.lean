import BuiltinAtlas.Proofs.Source.Call

/-!
# Expanding head macros in place

Expansion writes positional fields over calls of head macros, one for one, and leaves all other
bytes as they are (`rewritten_expandHeadMacros`). Written over are those of the calls that are met
that are not on a directive (`mem_expandedCalls_iff`).
-/

namespace BuiltinAtlas.Source

/-- What is written over a call: a one, what stands between the parentheses, a comma, and as many
blanks as it takes. -/
def Call.fields (c : Call) (s : List UInt8) : List UInt8 :=
  "1, ".toUTF8.toList ++ stretch s (c.opening + 1) c.closing ++ ",".toUTF8.toList ++
    List.replicate (c.opening - c.start - 2) 32

/-- Some calls have been written over, and nothing else. -/
structure Rewritten (s t : List UInt8) (calls : List Call) : Prop where
  length : t.length = s.length
  lineFeeds : t.count 10 = s.count 10
  apart : calls.Pairwise fun c d ↦ c.closing < d.start
  stands : ∀ c ∈ calls, c.StandsIn s ∧ ¬ OnDirective s c.start
  written : ∀ c ∈ calls, stretch t c.start (c.closing + 1) = c.fields s
  elsewhere : ∀ i, (∀ c ∈ calls, i < c.start ∨ c.closing < i) → t[i]? = s[i]?

variable {source : ByteArray} {s t : List UInt8} {c d : Call} {calls : List Call}

/-! ### What is written over a call -/

private theorem toList_one : "1, ".toUTF8.toList = [49, 44, 32] := by
  rw [toList_eq]
  rfl

private theorem toList_comma : ",".toUTF8.toList = [44] := by
  rw [toList_eq]
  rfl

namespace Call.StandsIn

/-- The fields are as long as the call. -/
theorem length_fields (h : c.StandsIn s) : (c.fields s).length = c.closing + 1 - c.start := by
  obtain ⟨long, after, inside⟩ := h.bounds
  rw [fields, toList_one, toList_comma]
  simp only [List.length_append, length_stretch (Nat.le_of_lt inside), List.length_cons,
    List.length_nil, List.length_replicate]
  omega

/-- The fields begin with the digit, not with the name of the macro. -/
theorem fields_ne (h : c.StandsIn s) : c.fields s ≠ stretch s c.start (c.closing + 1) := by
  intro same
  obtain ⟨long, after, -⟩ := h.bounds
  have first : (stretch s c.start (c.closing + 1))[0]? = some 80 := by
    rw [getElem?_stretch (by omega)]
    exact h.mention.named.bytes.1
  rw [← same, fields, toList_one] at first
  cases first

private theorem count_fields (h : c.StandsIn s) :
    (c.fields s).count 10 = (stretch s c.start (c.closing + 1)).count 10 := by
  obtain ⟨long, after, inside⟩ := h.bounds
  have name : (stretch s c.start (c.opening + 1)).count 10 = 0 :=
    List.count_eq_zero.mpr h.mention.named.lineFeed_not_mem
  have blanks (n : Nat) : (List.replicate n (32 : UInt8)).count 10 = 0 := by
    simp [List.count_replicate]
  have nameFirst : c.start ≤ c.opening + 1 := by omega
  have thenArguments : c.opening + 1 ≤ c.closing := by omega
  rw [stretch_append nameFirst (by omega), stretch_append thenArguments (by omega), stretch_succ,
    h.closes.closes, List.count_append, List.count_append, name, fields, toList_one, toList_comma,
    List.count_append, List.count_append, List.count_append, blanks]
  simp

/-- The fields are what the replacement of the call is. -/
theorem exists_replacement (h : c.StandsIn source.toList) : ∃ r,
    replacement? (source.extract (c.opening + 1) c.closing) (c.closing + 1 - c.start) = some r ∧
      r.toList = c.fields source.toList := by
  obtain ⟨long, after, inside⟩ := h.bounds
  have size : ("1, ".toUTF8 ++ source.extract (c.opening + 1) c.closing ++ ",".toUTF8).size =
      c.closing - c.opening + 3 := by
    rw [← length_toList, toList_append, toList_append, toList_extract, toList_one, toList_comma,
      List.length_append, List.length_append, length_stretch (by omega), List.length_cons,
      List.length_singleton]
    simp only [List.length_cons, List.length_nil]
    omega
  refine ⟨_, if_pos (by rw [size]; omega), ?_⟩
  have blanks : c.closing + 1 - c.start - (c.closing - c.opening + 3) =
      c.opening - c.start - 2 := by omega
  rw [size, blanks, toList_append, toList_append, toList_append, toList_extract, fields,
    toList_eq ⟨Array.replicate _ _⟩, Array.toList_replicate]

end Call.StandsIn

/-! ### One call after the other -/

/-- What the scanner makes of a call. -/
def Call.expand (source : ByteArray) (out : Option ByteArray) (c : Call) : Option ByteArray :=
  let replaced :=
    if inDirective source c.start then none
    else replacement? (source.extract (c.opening + 1) c.closing) (c.closing + 1 - c.start)
  match replaced with
  | none => out
  | some r =>
    let buffer := out.getD source
    some (buffer.extract 0 c.start ++ r ++ buffer.extract (c.closing + 1) buffer.size)

/-- Expansion makes something of one call after the other. -/
theorem expandFrom_eq_foldl (source : ByteArray) (fuel start : Nat) (out : Option ByteArray) :
    expandFrom source fuel start out =
      (callsFrom source fuel start).foldl (Call.expand source) out := by
  induction fuel generalizing start out with
  | zero => rfl
  | succ fuel ih =>
    rw [expandFrom, callsFrom, nextCall?]
    cases next : nextMacro source start with
    | none => rfl
    | some found =>
      obtain ⟨at_, length⟩ := found
      simp only [Option.bind_some]
      cases closes : closingParen source (at_ + length - 1) with
      | none => rfl
      | some closing =>
        simp only [Option.map_some, List.foldl_cons]
        rw [ih]
        rfl

/-- A call on a directive is left alone. -/
theorem Call.expand_of_directive (out : Option ByteArray) (h : OnDirective source.toList c.start) :
    c.expand source out = out := by
  rw [expand, if_pos (inDirective_iff.mpr h)]

/-- Any other call is written over. -/
theorem Call.exists_expand (out : Option ByteArray) (stands : c.StandsIn source.toList)
    (free : ¬ OnDirective source.toList c.start) :
    ∃ t, c.expand source out = some t ∧
      t.toList = patch (out.getD source).toList c.start (c.fields source.toList) := by
  obtain ⟨r, replaced, bytes⟩ := stands.exists_replacement
  obtain ⟨long, after, inside⟩ := stands.bounds
  have undirected : ¬ inDirective source c.start = true := fun h ↦ free (inDirective_iff.mp h)
  refine ⟨_, by rw [expand, if_neg undirected, replaced], ?_⟩
  have last : c.start + (c.fields source.toList).length = c.closing + 1 := by
    rw [stands.length_fields]
    omega
  rw [toList_append, toList_append, toList_extract, toList_extract, bytes, patch, last,
    stretch_zero, ← length_toList, stretch_length]

/-- The calls that are written over. -/
def expandedCalls (source : ByteArray) : List Call :=
  (callsFrom source (source.size + 1) 0).filter fun c ↦ !inDirective source c.start

namespace Rewritten

/-- At first nothing is written over. -/
theorem refl (s : List UInt8) : Rewritten s s [] :=
  ⟨rfl, rfl, .nil, nofun, nofun, fun _ _ ↦ rfl⟩

/-- What is behind all calls is as it was. -/
theorem drop_eq (h : Rewritten s t calls) {offset : Nat}
    (behind : ∀ c ∈ calls, c.closing < offset) : t.drop offset = s.drop offset := by
  apply List.ext_getElem?
  intro i
  rw [List.getElem?_drop, List.getElem?_drop]
  exact h.elsewhere _ fun c mem ↦ .inr (Nat.lt_add_right i (behind c mem))

/-- One more call is written over. -/
theorem snoc (h : Rewritten s t calls) (stands : c.StandsIn s) (free : ¬ OnDirective s c.start)
    (behind : ∀ d ∈ calls, d.closing < c.start) :
    Rewritten s (patch t c.start (c.fields s)) (calls ++ [c]) := by
  obtain ⟨long, after, inside⟩ := stands.bounds
  have last : c.start + (c.fields s).length = c.closing + 1 := by
    rw [stands.length_fields]
    omega
  have within : c.start + (c.fields s).length ≤ t.length := by
    rw [last, h.length]
    omega
  have hidden : stretch t c.start (c.closing + 1) = stretch s c.start (c.closing + 1) := by
    rw [stretch, h.drop_eq behind, stretch]
  refine ⟨(length_patch within).trans h.length, ?_, ?_, ?_, ?_, ?_⟩
  · rw [count_patch (by rw [last, hidden, stands.count_fields]), h.lineFeeds]
  · refine List.pairwise_append.mpr ⟨h.apart, List.pairwise_singleton .., ?_⟩
    intro d mem e new
    obtain rfl := List.mem_singleton.mp new
    exact behind d mem
  · intro d mem
    rcases List.mem_append.mp mem with old | new
    · exact h.stands d old
    · obtain rfl := List.mem_singleton.mp new
      exact ⟨stands, free⟩
  · intro d mem
    rcases List.mem_append.mp mem with old | new
    · rw [stretch_patch_of_le within (behind d old), h.written d old]
    · obtain rfl := List.mem_singleton.mp new
      rw [← last, stretch_patch_self within]
  · intro i outside
    have apart := outside c (List.mem_append_right calls (List.mem_singleton_self c))
    rw [getElem?_patch within (by omega)]
    exact h.elsewhere i fun d mem ↦ outside d (List.mem_append_left [c] mem)

private theorem foldl_expand {out : Option ByteArray} (rest : List Call)
    (h : Rewritten source.toList (out.getD source).toList calls)
    (some : out.isSome = true ↔ calls ≠ [])
    (stands : ∀ c ∈ rest, c.StandsIn source.toList)
    (apart : (calls ++ rest).Pairwise fun c d ↦ c.closing < d.start) :
    Rewritten source.toList ((rest.foldl (Call.expand source) out).getD source).toList
        (calls ++ rest.filter fun c ↦ !inDirective source c.start) ∧
      ((rest.foldl (Call.expand source) out).isSome = true ↔
        calls ++ rest.filter (fun c ↦ !inDirective source c.start) ≠ []) := by
  induction rest generalizing out calls with
  | nil => simpa using ⟨h, some⟩
  | cons c rest ih =>
    have here := stands c List.mem_cons_self
    have later (d : Call) (mem : d ∈ rest) := stands d (List.mem_cons_of_mem c mem)
    rw [List.foldl_cons]
    by_cases directive : OnDirective source.toList c.start
    · rw [c.expand_of_directive out directive,
        List.filter_cons_of_neg (by simp [inDirective_iff.mpr directive])]
      refine ih h some later (apart.sublist ?_)
      exact List.Sublist.append_left (List.sublist_cons_self c rest) calls
    · have undirected : inDirective source c.start = false :=
        Bool.eq_false_iff.mpr fun h ↦ directive (inDirective_iff.mp h)
      obtain ⟨t, expanded, bytes⟩ := c.exists_expand out here directive
      have behind (d : Call) (mem : d ∈ calls) : d.closing < c.start :=
        (List.pairwise_append.mp apart).2.2 d mem c List.mem_cons_self
      rw [expanded, List.filter_cons_of_pos (by simp [undirected]), List.append_cons]
      rw [List.append_cons] at apart
      refine ih ?_ (by simp) later apart
      rw [Option.getD_some, bytes]
      exact h.snoc here directive behind

end Rewritten

/-- The calls that are written over are met, and not on a directive. -/
theorem mem_expandedCalls_iff : c ∈ expandedCalls source ↔
    Met source.toList 0 c ∧ ¬ OnDirective source.toList c.start := by
  rw [expandedCalls, List.mem_filter, mem_callsFrom_iff (by omega), Bool.not_eq_true',
    ← inDirective_iff, Bool.not_eq_true]

/-- Some calls are written over, and the result is new if there are any. -/
theorem rewritten_expandHeadMacros (source : ByteArray) :
    Rewritten source.toList (expandHeadMacros source).toList (expandedCalls source) ∧
      ((expandHeadMacros? source).isSome = true ↔ expandedCalls source ≠ []) := by
  have enough : source.size < 0 + (source.size + 1) := by omega
  have nothing : (none : Option ByteArray).isSome = true ↔ ([] : List Call) ≠ [] := by simp
  have all := Rewritten.foldl_expand (callsFrom source (source.size + 1) 0) (.refl _) nothing
    (fun c mem ↦ ((mem_callsFrom_iff enough).mp mem).stands) (pairwise_callsFrom enough)
  rw [← expandFrom_eq_foldl, List.nil_append] at all
  exact all

end BuiltinAtlas.Source
