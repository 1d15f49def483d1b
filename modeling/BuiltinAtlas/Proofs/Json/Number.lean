import BuiltinAtlas.Proofs.Json.Quote

/-!
# Written numbers

`NumberForm` holds the ways to write a number. A number has no last character of its own, so that it
is a token only before a character that ends it (`NumberForm.tokensFrom`). Its parts are read one
after the other, each of them beginning where the one before it may end.
-/

namespace BuiltinAtlas.Json

/-- The decimal digits. -/
def decimalDigits : List Char := ['0', '1', '2', '3', '4', '5', '6', '7', '8', '9']

/-- Some decimal digits. -/
def DigitsForm : Form := fun cs ↦ cs ≠ [] ∧ ∀ c ∈ cs, c ∈ decimalDigits

/-- The digits of an integer, which begin with a zero only if there is no other one. -/
def IntegerForm : Form := fun cs ↦ DigitsForm cs ∧ (cs.head? = some '0' → cs = ['0'])

/-- A point and some digits, or nothing. -/
def FractionForm : Form := fun cs ↦ cs = [] ∨ ∃ ds, DigitsForm ds ∧ cs = '.' :: ds

/-- A mark, perhaps a sign, and some digits, or nothing. -/
def ExponentForm : Form := fun cs ↦
  cs = [] ∨ ∃ mark sign ds, mark ∈ ['e', 'E'] ∧ sign ∈ [[], ['+'], ['-']] ∧ DigitsForm ds ∧
    cs = mark :: (sign ++ ds)

/-- The ways to write some number. -/
def NumberForm : Form := fun cs ↦
  ∃ sign integer fraction exponent, sign ∈ [[], ['-']] ∧ IntegerForm integer ∧
    FractionForm fraction ∧ ExponentForm exponent ∧ cs = sign ++ (integer ++ (fraction ++ exponent))

/-- What may stand behind a value: nothing, white space, a comma or a closing bracket. -/
def Delimited (rest : List Char) : Prop :=
  ∀ c ∈ rest.head?, c ∈ [' ', '\t', '\n', '\r', ',', ']', '}']

/-- Some characters lead from one state to another, and are no whole token. -/
def Scan.Passes (state : Scan) (cs : List Char) (state' : Scan) : Prop :=
  ∀ found rest, tokensFrom state found (cs ++ rest) = tokensFrom state' found rest

namespace Scan.Passes

variable {s s₁ s₂ : Scan} {c : Char} {cs ds : List Char}

/-- Nothing leads nowhere. -/
theorem nil (s : Scan) : s.Passes [] s := fun _ _ ↦ rfl

/-- One character leads to where the others begin. -/
theorem cons (first : s.next c = ([], s₁)) (others : s₁.Passes cs s₂) : s.Passes (c :: cs) s₂ := by
  intro found rest
  rw [List.cons_append, tokensFrom, first]
  exact others found rest

/-- Some characters lead to where others begin. -/
theorem append (first : s.Passes cs s₁) (others : s₁.Passes ds s₂) : s.Passes (cs ++ ds) s₂ := by
  intro found rest
  rw [List.append_assoc, first, others]

end Scan.Passes

namespace NumberScan

variable {n : NumberScan} {c : Char} {cs : List Char}

private theorem exists_digit? (h : c ∈ decimalDigits) : ∃ d, digit? c = some d := by
  have all : decimalDigits.all (fun c ↦ (digit? c).isSome) = true := by decide
  exact Option.isSome_iff_exists.mp (List.all_eq_true.mp all c h)

/-- The part of a number that digits belong to, if they may follow a part. -/
def digitPart : NumberPart → NumberPart
  | .minus | .zero | .integer => .integer
  | .point | .fraction => .fraction
  | .exponentMark | .exponentSign | .exponent => .exponent

private theorem exists_next_digit (h : c ∈ decimalDigits) (notMinus : n.part ≠ .minus)
    (notZero : n.part ≠ .zero) :
    ∃ n', n.next c = ([], .number n') ∧ n'.part = digitPart n.part := by
  obtain ⟨d, value⟩ := exists_digit? h
  cases part : n.part with
  | minus => exact absurd part notMinus
  | zero => exact absurd part notZero
  | _ =>
    rw [next, part, value]
    exact ⟨_, rfl, rfl⟩

private theorem exists_passes_digits (h : ∀ c ∈ cs, c ∈ decimalDigits)
    (within : digitPart n.part = n.part) :
    ∃ n', (Scan.number n).Passes cs (.number n') ∧ n'.part = n.part := by
  induction cs generalizing n with
  | nil => exact ⟨n, .nil _, rfl⟩
  | cons c cs ih =>
    obtain ⟨isDigit, digits⟩ := List.forall_mem_cons.mp h
    have notMinus : n.part ≠ .minus := fun no ↦ by simp [no, digitPart] at within
    have notZero : n.part ≠ .zero := fun no ↦ by simp [no, digitPart] at within
    obtain ⟨n₁, first, part₁⟩ := exists_next_digit isDigit notMinus notZero
    rw [within] at part₁
    obtain ⟨n₂, others, part₂⟩ := ih digits (by rw [part₁, within])
    exact ⟨n₂, .cons first others, part₂.trans part₁⟩

private theorem exists_passes_digitsForm (form : DigitsForm cs) (notMinus : n.part ≠ .minus)
    (notZero : n.part ≠ .zero) :
    ∃ n', (Scan.number n).Passes cs (.number n') ∧ n'.part = digitPart n.part := by
  obtain ⟨notEmpty, digits⟩ := form
  cases cs with
  | nil => exact absurd rfl notEmpty
  | cons c cs =>
    obtain ⟨isDigit, digits⟩ := List.forall_mem_cons.mp digits
    obtain ⟨n₁, first, part₁⟩ := exists_next_digit isDigit notMinus notZero
    have within : digitPart n₁.part = n₁.part := by
      rw [part₁]
      cases n.part <;> rfl
    obtain ⟨n₂, others, part₂⟩ := exists_passes_digits digits within
    exact ⟨n₂, .cons first others, part₂.trans part₁⟩

private theorem exists_next_first {s : Scan} (start : s = .between ∨ s = .number { part := .minus })
    (h : c ∈ decimalDigits) :
    ∃ n, s.next c = ([], .number n) ∧ n.part = if c = '0' then .zero else .integer := by
  simp only [decimalDigits, List.mem_cons, List.not_mem_nil, or_false] at h
  rcases start with rfl | rfl <;>
    rcases h with rfl | rfl | rfl | rfl | rfl | rfl | rfl | rfl | rfl | rfl <;>
      exact ⟨_, rfl, rfl⟩

private theorem exists_passes_integer {s : Scan}
    (start : s = .between ∨ s = .number { part := .minus }) (form : IntegerForm cs) :
    ∃ n, s.Passes cs (.number n) ∧ (n.part = .zero ∨ n.part = .integer) := by
  obtain ⟨⟨notEmpty, digits⟩, alone⟩ := form
  cases cs with
  | nil => exact absurd rfl notEmpty
  | cons c cs =>
    obtain ⟨isDigit, digits⟩ := List.forall_mem_cons.mp digits
    obtain ⟨n₁, first, part₁⟩ := exists_next_first start isDigit
    by_cases zero : c = '0'
    · subst zero
      cases (List.cons_inj_right _).mp (alone rfl)
      exact ⟨n₁, .cons first (.nil _), .inl part₁⟩
    · rw [if_neg zero] at part₁
      obtain ⟨n₂, others, part₂⟩ := exists_passes_digits (n := n₁) digits (by rw [part₁]; rfl)
      exact ⟨n₂, .cons first others, .inr (part₂.trans part₁)⟩

private theorem exists_passes_signed {sign : List Char} (isSign : sign ∈ [[], ['-']])
    (form : IntegerForm cs) :
    ∃ n, Scan.between.Passes (sign ++ cs) (.number n) ∧ (n.part = .zero ∨ n.part = .integer) := by
  simp only [List.mem_cons, List.not_mem_nil, or_false] at isSign
  rcases isSign with rfl | rfl
  · exact exists_passes_integer (.inl rfl) form
  · obtain ⟨n, passes, part⟩ := exists_passes_integer (.inr rfl) form
    exact ⟨n, .cons rfl passes, part⟩

private theorem exists_passes_fraction (form : FractionForm cs)
    (integer : n.part = .zero ∨ n.part = .integer) :
    ∃ n', (Scan.number n).Passes cs (.number n') ∧
      (n'.part = .zero ∨ n'.part = .integer ∨ n'.part = .fraction) := by
  rcases form with rfl | ⟨ds, digits, rfl⟩
  · exact ⟨n, .nil _, integer.imp_right .inl⟩
  · have first : (Scan.number n).next '.' = ([], .number { n with part := .point }) := by
      rcases integer with part | part
      · rw [Scan.next, next, part]
        rfl
      · rw [Scan.next, next, part]
        rfl
    obtain ⟨n', others, part⟩ :=
      exists_passes_digitsForm (n := { n with part := .point }) digits (by simp) (by simp)
    exact ⟨n', .cons first others, .inr (.inr part)⟩

private theorem exists_passes_exponent (form : ExponentForm cs)
    (significand : n.part = .zero ∨ n.part = .integer ∨ n.part = .fraction) :
    ∃ n', (Scan.number n).Passes cs (.number n') ∧
      (n'.part = .zero ∨ n'.part = .integer ∨ n'.part = .fraction ∨ n'.part = .exponent) := by
  rcases form with rfl | ⟨mark, sign, ds, isMark, isSign, digits, rfl⟩
  · exact ⟨n, .nil _, significand.imp_right (.imp_right .inl)⟩
  · have first : (Scan.number n).next mark = ([], .number { n with part := .exponentMark }) := by
      simp only [List.mem_cons, List.not_mem_nil, or_false] at isMark
      rcases isMark with rfl | rfl <;> rcases significand with part | part | part <;>
        (rw [Scan.next, next, part]; rfl)
    have signed : ∃ n', (Scan.number { n with part := .exponentMark }).Passes sign (.number n') ∧
        (n'.part = .exponentMark ∨ n'.part = .exponentSign) := by
      simp only [List.mem_cons, List.not_mem_nil, or_false] at isSign
      rcases isSign with rfl | rfl | rfl
      · exact ⟨_, .nil _, .inl rfl⟩
      · exact ⟨_, .cons rfl (.nil _), .inr rfl⟩
      · exact ⟨_, .cons rfl (.nil _), .inr rfl⟩
    obtain ⟨n₁, second, part₁⟩ := signed
    obtain ⟨n₂, third, part₂⟩ := exists_passes_digitsForm (n := n₁) digits
      (by rcases part₁ with h | h <;> simp [h]) (by rcases part₁ with h | h <;> simp [h])
    refine ⟨n₂, .cons first (second.append third), .inr (.inr (.inr ?_))⟩
    rcases part₁ with h | h <;> rw [part₂, h] <;> rfl

private theorem tokensFrom_delimited
    (complete : n.part = .zero ∨ n.part = .integer ∨ n.part = .fraction ∨ n.part = .exponent)
    {rest : List Char} (h : Delimited rest) (found : List Token) :
    tokensFrom (.number n) found rest = tokensFrom .between (.number n.finite :: found) rest := by
  cases rest with
  | nil =>
    have last : (Scan.number n).finish = [.number n.finite] := by
      rcases complete with part | part | part | part <;> simp [Scan.finish, part]
    rw [tokensFrom, tokensFrom, last]
    simp [Scan.finish]
  | cons c rest =>
    have ends : ∀ c ∈ [' ', '\t', '\n', '\r', ',', ']', '}'],
        digit? c = none ∧ (c == '.') = false ∧ (c == 'e' || c == 'E') = false := by
      simp [digit?]
    obtain ⟨noDigit, noPoint, noMark⟩ := ends c (h c rfl)
    have next : (Scan.number n).next c = (.number n.finite :: (begin c).1, (begin c).2) := by
      rcases complete with part | part | part | part <;>
        simp only [Scan.next, NumberScan.next, part, noDigit, noPoint, noMark, Bool.false_eq_true,
          if_false]
    rw [tokensFrom, tokensFrom, next, Scan.next]
    simp

end NumberScan

/-- A number is a single token before a delimiter. -/
theorem NumberForm.tokensFrom {cs : List Char} (form : NumberForm cs) :
    ∃ finite, ∀ found rest, Delimited rest →
      Json.tokensFrom .between found (cs ++ rest) =
        Json.tokensFrom .between (.number finite :: found) rest := by
  obtain ⟨sign, integer, fraction, exponent, isSign, isInteger, isFraction, isExponent, rfl⟩ := form
  obtain ⟨n₁, first, part₁⟩ := NumberScan.exists_passes_signed isSign isInteger
  obtain ⟨n₂, second, part₂⟩ := NumberScan.exists_passes_fraction isFraction part₁
  obtain ⟨n₃, third, part₃⟩ := NumberScan.exists_passes_exponent isExponent part₂
  refine ⟨n₃.finite, fun found rest delimited ↦ ?_⟩
  have passes := first.append (second.append third)
  rw [List.append_assoc] at passes
  rw [passes, NumberScan.tokensFrom_delimited part₃ delimited]

end BuiltinAtlas.Json
