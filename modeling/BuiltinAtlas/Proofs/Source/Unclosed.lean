import BuiltinAtlas.Proofs.Source.Expansion

/-!
# Mentions that are not closed

The scanner gives up at a mention that is not closed, wherever that stands: in a comment, in a
string or on a directive as well. All bytes behind it stay as they are
(`drop_expandHeadMacros_of_unclosed`), so that a call that is neither on a directive nor inside of
another one is written over if and only if all mentions in front of it are closed
(`expandHeadMacros_expands_iff`).
-/

namespace BuiltinAtlas.Source

variable {source : ByteArray} {s : List UInt8} {c : Call} {start opening : Nat}

private theorem Met.lt_of_unclosed (met : Met s 0 c) (mention : Mention s start opening)
    (unclosed : ∀ closing, ¬ Closes s opening closing) : c.closing < start := by
  refine Nat.lt_of_not_le fun upTo ↦ ?_
  rcases Nat.lt_trichotomy start c.start with before | rfl | inside
  · obtain ⟨closing, closes⟩ := met.closed start opening (Nat.zero_le start) before mention
    exact unclosed closing closes
  · obtain rfl := mention.named.eq met.stands.mention.named
    exact unclosed c.closing met.stands.closes
  · obtain ⟨-, closing, -, closes⟩ := met.stands.nested mention inside upTo
    exact unclosed closing closes

private theorem drop_expandHeadMacros_of_unclosed (mention : Mention source.toList start opening)
    (unclosed : ∀ closing, ¬ Closes source.toList opening closing) :
    (expandHeadMacros source).toList.drop start = source.toList.drop start := by
  obtain ⟨rewritten, -⟩ := rewritten_expandHeadMacros source
  exact rewritten.drop_eq fun c mem ↦
    (mem_expandedCalls_iff.mp mem).1.lt_of_unclosed mention unclosed

/-- A call that is neither on a directive nor inside of another one is written over if and only if
all mentions in front of it are closed. -/
theorem expandHeadMacros_expands_iff (stands : c.StandsIn source.toList)
    (free : ¬ OnDirective source.toList c.start)
    (outermost : ∀ d : Call, d.StandsIn source.toList → ¬ d.Encloses c.start) :
    stretch (expandHeadMacros source).toList c.start (c.closing + 1) = c.fields source.toList ↔
      ∀ start opening, Mention source.toList start opening → start < c.start →
        ∃ closing, Closes source.toList opening closing := by
  constructor
  · intro expanded start opening mention before
    by_contra unclosed
    have same := drop_expandHeadMacros_of_unclosed mention (not_exists.mp unclosed)
    have behind : (expandHeadMacros source).toList.drop c.start = source.toList.drop c.start := by
      rw [← Nat.add_sub_cancel' (Nat.le_of_lt before), ← List.drop_drop, same, List.drop_drop]
    rw [stretch, behind] at expanded
    exact stands.fields_ne expanded.symm
  · intro closed
    have met : Met source.toList 0 c :=
      ⟨Nat.zero_le _, stands, fun d _ ↦ outermost d,
        fun i opening _ before mention ↦ closed i opening mention before⟩
    exact (rewritten_expandHeadMacros source).1.written c (mem_expandedCalls_iff.mpr ⟨met, free⟩)

/-! A macro is defined, named at the end of a longer word, and then called. -/

namespace Defined

/-- The parenthesis behind the longer word is never closed. -/
def text : ByteArray :=
  ("#define PyObject_HEAD_INIT(t) 1, t,\n" ++
    "/* MyPyObject_HEAD_INIT( */ PyVarObject_HEAD_INIT(&T, f(0))").toUTF8

/-- Where the macro is defined. -/
def definition : Call := ⟨8, 26, 28⟩

/-- Where the macro is called. -/
def use : Call := ⟨64, 85, 94⟩

private theorem nextCall?_definition : nextCall? text 0 = some definition := by
  simp only [nextCall?, closingParen, toList_eq]
  rfl

private theorem nextCall?_use : nextCall? text 9 = some use := by
  simp only [nextCall?, closingParen, toList_eq]
  decide +kernel

private theorem eq_definition {start opening : Nat} (mention : Mention text.toList start opening)
    (before : start < use.start) : start = definition.start := by
  obtain ⟨-, -, none⟩ := nextCall?_eq_some_iff.mp nextCall?_definition
  obtain ⟨-, -, noneBehind⟩ := nextCall?_eq_some_iff.mp nextCall?_use
  rcases Nat.lt_trichotomy start definition.start with less | same | more
  · exact absurd mention (none start (Nat.zero_le start) less opening)
  · exact same
  · exact absurd mention (noneBehind start more before opening)

/-- The call is written over although it is behind a parenthesis that is never closed. -/
theorem expandHeadMacros_expands_use :
    use.StandsIn text.toList ∧ ¬ OnDirective text.toList use.start ∧
      (∀ d : Call, d.StandsIn text.toList → ¬ d.Encloses use.start) ∧
      stretch (expandHeadMacros text).toList use.start (use.closing + 1) =
        use.fields text.toList := by
  obtain ⟨-, defined, -⟩ := nextCall?_eq_some_iff.mp nextCall?_definition
  obtain ⟨-, stands, -⟩ := nextCall?_eq_some_iff.mp nextCall?_use
  have free : ¬ OnDirective text.toList use.start := by
    rw [← inDirective_iff, inDirective, toList_eq]
    decide +kernel
  have outermost (d : Call) (other : d.StandsIn text.toList) : ¬ d.Encloses use.start := by
    rintro ⟨before, behind⟩
    have bounds := other.bounds
    have here := eq_definition other.mention (by omega)
    obtain rfl := other.eq defined here
    exact absurd behind (by decide)
  refine ⟨stands, free, outermost, ?_⟩
  refine (expandHeadMacros_expands_iff stands free outermost).mpr ?_
  intro start opening mention before
  obtain rfl := eq_definition mention before
  obtain rfl := defined.mention.named.eq mention.named
  exact ⟨definition.closing, defined.closes⟩

end Defined

/-! A macro is named in a comment, and then called. -/

namespace Commented

/-- The parenthesis in the comment is never closed. -/
def text : ByteArray := "/* PyObject_HEAD_INIT( */ PyObject_HEAD_INIT(0)".toUTF8

/-- Where the macro is called. -/
def use : Call := ⟨26, 44, 46⟩

private theorem nextCall?_comment : nextCall? text 0 = none := by
  simp only [nextCall?, closingParen, toList_eq]
  rfl

private theorem nextCall?_use : nextCall? text 4 = some use := by
  simp only [nextCall?, closingParen, toList_eq]
  decide +kernel

/-- The call is left as it is, although it is neither on a directive nor between the parentheses of
another name. -/
theorem not_expands_use :
    use.StandsIn text.toList ∧ ¬ OnDirective text.toList use.start ∧
      (∀ d : Call, Named text.toList d.start d.opening →
        Closes text.toList d.opening d.closing → ¬ d.Encloses use.start) ∧
      stretch (expandHeadMacros text).toList use.start (use.closing + 1) ≠
        use.fields text.toList := by
  obtain ⟨-, stands, -⟩ := nextCall?_eq_some_iff.mp nextCall?_use
  refine ⟨stands, ?_, ?_, ?_⟩
  · rw [← inDirective_iff, inDirective, toList_eq]
    decide +kernel
  · rintro d - closes ⟨before, -⟩
    have onlyInComment : ∀ i < use.start, text.toList[i]? = some 40 → i = 21 := by
      rw [toList_eq]
      decide +kernel
    have unclosed : closingParen text 21 = none := by
      rw [closingParen, toList_eq]
      rfl
    rw [onlyInComment d.opening before closes.opens] at closes
    cases unclosed.symm.trans ((closingParen_eq_some_iff closes.opens).mpr closes)
  · have same : expandHeadMacros text = text := by
      rw [expandHeadMacros, expandHeadMacros?, expandFrom_eq_foldl, callsFrom, nextCall?_comment]
      rfl
    rw [same]
    exact stands.fields_ne.symm

end Commented

end BuiltinAtlas.Source
