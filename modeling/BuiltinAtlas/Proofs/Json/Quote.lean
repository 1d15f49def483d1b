import BuiltinAtlas.Json.Printer
import BuiltinAtlas.Json.Token
import Mathlib.Data.List.Forall2

/-!
# Quoted texts and white space

`TextForm s` holds the ways to write a text in quotes: each of its characters stands for itself or
is escaped, in one of several ways. Each of them is a single token, whatever stands behind it
(`TextForm.tokensFrom`), and `quote` writes one of them. The induction is on the characters of the
text, which are read back one by one from their written forms. White space between tokens is passed
over.
-/

namespace BuiltinAtlas.Json

/-- Some ways to write a value. -/
abbrev Form := List Char → Prop

/-- The hexadecimal digits with their values. -/
def hexDigits : List (Char × Nat) := "0123456789abcdef".toList.zipIdx ++ "ABCDEF".toList.zipIdx 10

/-- The letters that stand for a character behind a backslash. -/
def escapeLetters : List (Char × Char) :=
  [('"', '"'), ('\\', '\\'), ('/', '/'), ('b', '\x08'), ('f', '\x0c'), ('n', '\n'), ('r', '\r'),
    ('t', '\t')]

/-- A code unit is written with four hexadecimal digits. -/
inductive UnitForm : Nat → Form
  | digits {a b c d : Char × Nat} : a ∈ hexDigits → b ∈ hexDigits → c ∈ hexDigits → d ∈ hexDigits →
      UnitForm (16 * (16 * (16 * a.2 + b.2) + c.2) + d.2) ['\\', 'u', a.1, b.1, c.1, d.1]

/-- The ways to write a character: as itself, as an escape with a letter, as its code unit, or as a
pair of surrogates. -/
inductive CharForm (c : Char) : Form
  | plain : ' ' ≤ c → c ≠ '"' → c ≠ '\\' → CharForm c [c]
  | letter {e : Char} : (e, c) ∈ escapeLetters → CharForm c ['\\', e]
  | unit {cs : List Char} : UnitForm c.toNat cs → CharForm c cs
  | pair {leading trailing : Nat} {cs ds : List Char} :
      0xD800 ≤ leading → leading ≤ 0xDBFF → 0xDC00 ≤ trailing → trailing ≤ 0xDFFF →
      c.toNat = 0x10000 + (leading - 0xD800) * 0x400 + (trailing - 0xDC00) →
      UnitForm leading cs → UnitForm trailing ds → CharForm c (cs ++ ds)

/-- The ways to write a text in quotes. -/
def TextForm (s : String) : Form := fun cs ↦
  ∃ css, List.Forall₂ CharForm s.toList css ∧ cs = '"' :: (css.flatten ++ ['"'])

/-! ### Texts are tokens -/

namespace TextScan

private theorem addCode_part (t : TextScan) (part : TextPart) (surrogate : Option Nat)
    (code : Nat) :
    addCode { t with part := part } surrogate code = addCode t surrogate code := by
  cases surrogate <;> rfl

/-- A code unit is read. Behind a leading surrogate it may complete a pair. -/
private theorem tokensFrom_unit {t : TextScan} {surrogate : Option Nat}
    (escapes : t.next '\\' = ([], .text { t with part := .escape surrogate })) {code : Nat}
    {cs : List Char} (form : UnitForm code cs) (found : List Token) (rest : List Char) :
    tokensFrom (.text t) found (cs ++ rest) =
      tokensFrom (.text (t.addCode surrogate code)) found rest := by
  have digit : ∀ p ∈ hexDigits, hexDigit? p.1 = some p.2 ∧ p.1.utf8Size = 1 := by decide
  cases form with
  | digits ha hb hc hd =>
    simp only [List.cons_append, List.nil_append, tokensFrom, Scan.next, escapes]
    simp [TextScan.next, digit _ ha, digit _ hb, digit _ hc, digit _ hd, addCode_part]

private theorem tokensFrom_charForm {c : Char} {cs : List Char} (form : CharForm c cs)
    (chars : List Char) (found : List Token) (rest : List Char) :
    tokensFrom (.text { chars := chars }) found (cs ++ rest) =
      tokensFrom (.text { chars := c :: chars }) found rest := by
  cases form with
  | plain printable notQuote notBackslash =>
    have notControl : ¬ c < ' ' := Char.not_lt.mpr printable
    simp [tokensFrom, Scan.next, TextScan.next, nextPlain, notQuote, notBackslash, notControl, push]
  | @letter e mem =>
    have letters : ∀ p ∈ escapeLetters, escaped? p.1 = some p.2 ∧ p.1 ≠ 'u' := by decide
    obtain ⟨escapes, notUnit⟩ := letters _ mem
    simp [tokensFrom, Scan.next, TextScan.next, nextPlain, escapes, notUnit, push]
  | unit form =>
    have valid : c.toNat < 0xD800 ∨ 0xDFFF < c.toNat ∧ c.toNat < 0x110000 := c.valid
    have notLeading : isLeading c.toNat = false := by
      simp only [isLeading, Bool.and_eq_false_iff, decide_eq_false_iff_not]
      omega
    have notTrailing : isTrailing c.toNat = false := by
      simp only [isTrailing, Bool.and_eq_false_iff, decide_eq_false_iff_not]
      omega
    rw [tokensFrom_unit rfl form]
    simp [addCode, notLeading, notTrailing, push]
  | @pair leading trailing cs ds leadingMin leadingMax trailingMin trailingMax code first second =>
    have isFirst : isLeading leading = true := by simp [isLeading, leadingMin, leadingMax]
    have isSecond : isTrailing trailing = true := by simp [isTrailing, trailingMin, trailingMax]
    have waits : addCode { chars := chars } none leading =
        { part := .leading leading, chars := chars } := by
      simp [addCode, isFirst]
    rw [List.append_assoc, tokensFrom_unit rfl first, waits, tokensFrom_unit rfl second]
    simp [addCode, isSecond, ← code, push]

private theorem tokensFrom_charForms {s : List Char} {css : List (List Char)}
    (forms : List.Forall₂ CharForm s css) (chars : List Char) (found : List Token)
    (rest : List Char) :
    tokensFrom (.text { chars := chars }) found (css.flatten ++ rest) =
      tokensFrom (.text { chars := s.reverse ++ chars }) found rest := by
  induction forms generalizing chars with
  | nil => rfl
  | @cons c cs s css first _ ih =>
    rw [List.flatten_cons, List.append_assoc, tokensFrom_charForm first, ih, List.reverse_cons,
      List.append_assoc, List.singleton_append]

end TextScan

/-- A text in quotes is the token of that text. -/
theorem TextForm.tokensFrom {s : String} {cs : List Char} (form : TextForm s cs)
    (found : List Token) (rest : List Char) :
    Json.tokensFrom .between found (cs ++ rest) =
      Json.tokensFrom .between (.text (.ok s) :: found) rest := by
  obtain ⟨css, forms, rfl⟩ := form
  have opening (inner : List Char) : Json.tokensFrom .between found ('"' :: inner) =
      Json.tokensFrom (.text {}) found inner := by
    simp [Json.tokensFrom, Scan.next, begin, isSpace]
  have closing (chars : List Char) :
      Json.tokensFrom (.text { chars := chars }) found ('"' :: rest) =
        Json.tokensFrom .between (.text (.ok (String.ofList chars.reverse)) :: found) rest := by
    simp [Json.tokensFrom, Scan.next, TextScan.next, TextScan.nextPlain, TextScan.value]
  rw [List.cons_append, List.append_assoc, List.singleton_append, opening,
    TextScan.tokensFrom_charForms forms, closing]
  simp

/-! ### Texts are quoted -/

private theorem unitForm_controlDigits (n : Nat) (h : n < 32) :
    UnitForm n ('\\' :: 'u' :: controlDigits n) := by
  have digit (i : Nat) (h : i < 16) :
      (if i < 10 then Char.ofNat (48 + i) else Char.ofNat (87 + i), i) ∈ hexDigits := by
    have all : ∀ i : Fin 16, (if i.val < 10 then Char.ofNat (48 + i.val)
        else Char.ofNat (87 + i.val), i.val) ∈ hexDigits := by decide
    exact all ⟨i, h⟩
  have zero : ('0', 0) ∈ hexDigits := by decide
  have form := UnitForm.digits zero zero (digit (n / 16) (by omega)) (digit (n % 16) (by omega))
  have value : 16 * (16 * (16 * 0 + 0) + n / 16) + n % 16 = n := by omega
  rw [value] at form
  exact form

private theorem charForm_escapeChar (c : Char) : CharForm c (escapeChar c) := by
  unfold escapeChar
  split
  · exact .letter (by decide)
  · exact .letter (by decide)
  · exact .letter (by decide)
  · exact .letter (by decide)
  · exact .letter (by decide)
  · exact .letter (by decide)
  · exact .letter (by decide)
  · next notQuote notBackslash _ _ _ _ _ =>
    split
    · next control => exact .unit (unitForm_controlDigits c.toNat control)
    · next printable => exact .plain (Char.not_lt.mp printable) notQuote notBackslash

/-- What is written for a text is one of its written forms. -/
theorem textForm_quote (s : String) : TextForm s (quote s) := by
  refine ⟨s.toList.map escapeChar, ?_, by rw [quote, List.flatMap_def, List.cons_append]⟩
  rw [List.forall₂_map_right_iff]
  exact List.forall₂_same.mpr fun c _ ↦ charForm_escapeChar c

/-! ### White space -/

/-- White space, of which there may be none. -/
def Blank : Form := fun cs ↦ ∀ c ∈ cs, c ∈ [' ', '\t', '\n', '\r']

/-- White space can be told from other characters. Only the characters at hand are looked at, not
all that there are. -/
instance (cs : List Char) : Decidable (Blank cs) :=
  List.decidableBAll (· ∈ [' ', '\t', '\n', '\r']) cs

/-- Nothing is white space. -/
theorem blank_nil : Blank [] := fun _ no ↦ by cases no

/-- Between tokens, white space is passed over. -/
theorem Blank.tokensFrom {cs : List Char} (blank : Blank cs) (found : List Token)
    (rest : List Char) :
    Json.tokensFrom .between found (cs ++ rest) = Json.tokensFrom .between found rest := by
  have passed : ∀ c ∈ [' ', '\t', '\n', '\r'], begin c = ([], .between) := by
    simp [begin, isSpace]
  induction cs with
  | nil => rfl
  | cons c cs ih =>
    obtain ⟨first, others⟩ := List.forall_mem_cons.mp blank
    rw [List.cons_append, Json.tokensFrom, Scan.next, passed c first]
    exact ih others

/-- The break before an item is white space. -/
theorem blank_newline (depth : Nat) : Blank (newline depth) := by
  intro c mem
  rcases List.mem_cons.mp mem with rfl | mem
  · decide
  · rw [List.eq_of_mem_replicate mem]
    decide

end BuiltinAtlas.Json
