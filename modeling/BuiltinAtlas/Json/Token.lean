/-!
# JSON tokens

`Json.tokens` cuts a text into tokens, one character at a time. A token that breaks off or is
malformed is the last one. Numbers are only told apart by whether a double can hold them, because
nothing here reads a number's value; texts are decoded.

A `Fault` is a reason to reject a text: it ended too early, it is no JSON, or it has another shape
than the reader wants.
-/

namespace BuiltinAtlas.Json

/-- Why a text was rejected. -/
inductive Fault where
  /-- The text ended within a value. -/
  | ended
  /-- The text is not JSON. -/
  | malformed
  /-- The text is JSON so far, but not of the wanted shape. -/
  | misshapen
  deriving DecidableEq

/-- A token. -/
inductive Token where
  | openBrace
  | closeBrace
  | openBracket
  | closeBracket
  | comma
  | colon
  | null
  | bool (value : Bool)
  /-- A number, and whether it is in the range of a double. -/
  | number (finite : Bool)
  /-- A text. It has no value if it has a surrogate without its partner. -/
  | text (value : Except Fault String)
  /-- A word that begins like a literal, and whether like `null`. -/
  | brokenLiteral (isNull : Bool) (fault : Fault)
  | brokenNumber (fault : Fault)
  /-- A text without an end. `strict` is the first fault of the text, `loose` the first one that
  is not an unpaired surrogate. -/
  | brokenText (strict loose : Fault)
  /-- A character that begins no token. -/
  | stray

/-- The parts of a number. -/
inductive NumberPart where
  | minus
  | zero
  | integer
  | point
  | fraction
  | exponentMark
  | exponentSign
  | exponent
  deriving DecidableEq

/-- What has been read of a number: `significand * 10 ^ scale` before the exponent. The significand
stops growing when it would exceed 64 bits. -/
structure NumberScan where
  part : NumberPart
  significand : Nat := 0
  full : Bool := false
  scale : Int := 0
  negativeExponent : Bool := false
  exponent : Nat := 0

namespace NumberScan

/-- Take in a digit of the significand. -/
def addDigit (n : NumberScan) (part : NumberPart) (digit : Nat) : NumberScan :=
  let grown := n.significand * 10 + digit
  let full := n.full || UInt64.size ≤ grown
  let step : Int := if part = .fraction then -1 else 0
  { n with
    part := part
    full := full
    significand := if full then n.significand else grown
    scale := if full then n.scale + (step + 1) else n.scale + step }

/-- Whether a double can hold the number. -/
def finite (n : NumberScan) : Bool :=
  let power := if n.negativeExponent then n.scale - n.exponent else n.scale + n.exponent
  n.significand == 0 || power ≤ 0 ||
    (power ≤ 308 && n.significand * Nat.pow 10 power.toNat < 1 <<< 1024 - 1 <<< 970)

end NumberScan

/-- How a text is being read. A leading surrogate waits for its partner. -/
inductive TextPart where
  | plain
  /-- Behind a leading surrogate. -/
  | leading (surrogate : Nat)
  /-- Behind a backslash. -/
  | escape (surrogate : Option Nat)
  /-- Behind `\u`: the number of bytes and the value so far, unless it is no hexadecimal number. -/
  | hex (surrogate : Option Nat) (bytes : Nat) (code : Option Nat)

/-- What has been read of a text, the last character first, and whether a surrogate had no
partner. -/
structure TextScan where
  part : TextPart := .plain
  chars : List Char := []
  unpaired : Bool := false

/-- The state between two characters. -/
inductive Scan where
  | between
  /-- Within a literal: the characters that are missing, the token, and whether it is `null`. -/
  | literal (missing : List Char) (token : Token) (isNull : Bool)
  | number (n : NumberScan)
  | text (t : TextScan)
  /-- Behind a broken token. -/
  | stopped

/-- JSON white space. -/
def isSpace (c : Char) : Bool := c == ' ' || c == '\n' || c == '\t' || c == '\r'

/-- The value of a decimal digit. -/
def digit? (c : Char) : Option Nat :=
  if '0' ≤ c ∧ c ≤ '9' then some (c.toNat - 48) else none

/-- The value of a hexadecimal digit. -/
def hexDigit? (c : Char) : Option Nat :=
  if '0' ≤ c ∧ c ≤ '9' then some (c.toNat - 48)
  else if 'a' ≤ c ∧ c ≤ 'f' then some (c.toNat - 87)
  else if 'A' ≤ c ∧ c ≤ 'F' then some (c.toNat - 55)
  else none

/-- The character that a backslash and a letter stand for. -/
def escaped? (c : Char) : Option Char :=
  match c with
  | '"' => some '"'
  | '\\' => some '\\'
  | '/' => some '/'
  | 'b' => some '\x08'
  | 'f' => some '\x0c'
  | 'n' => some '\n'
  | 'r' => some '\r'
  | 't' => some '\t'
  | _ => none

/-- Whether a code unit is a leading surrogate. -/
def isLeading (code : Nat) : Bool := 0xD800 ≤ code && code ≤ 0xDBFF

/-- Whether a code unit is a trailing surrogate. -/
def isTrailing (code : Nat) : Bool := 0xDC00 ≤ code && code ≤ 0xDFFF

/-- Tokens that are complete, and the state behind them. -/
abbrev Step := List Token × Scan

/-- Begin a token. -/
def begin (c : Char) : Step :=
  if isSpace c then ([], .between)
  else match c with
    | '{' => ([.openBrace], .between)
    | '}' => ([.closeBrace], .between)
    | '[' => ([.openBracket], .between)
    | ']' => ([.closeBracket], .between)
    | ',' => ([.comma], .between)
    | ':' => ([.colon], .between)
    | '"' => ([], .text {})
    | 't' => ([], .literal ['r', 'u', 'e'] (.bool true) false)
    | 'f' => ([], .literal ['a', 'l', 's', 'e'] (.bool false) false)
    | 'n' => ([], .literal ['u', 'l', 'l'] .null true)
    | '-' => ([], .number { part := .minus })
    | '0' => ([], .number { part := .zero })
    | _ => match digit? c with
      | some d => ([], .number (NumberScan.addDigit { part := .integer } .integer d))
      | none => ([.stray], .stopped)

/-- Continue a number. A character that cannot belong to it ends it. -/
def NumberScan.next (n : NumberScan) (c : Char) : Step :=
  let broken : Step := ([.brokenNumber .malformed], .stopped)
  let complete : Step := let (more, state) := begin c; (.number n.finite :: more, state)
  let isMark := c == 'e' || c == 'E'
  match n.part, digit? c with
  | .minus, some 0 => ([], .number { n with part := .zero })
  | .minus, some d => ([], .number (n.addDigit .integer d))
  | .minus, none => broken
  | .zero, some _ => broken
  | .integer, some d => ([], .number (n.addDigit .integer d))
  | .zero, none | .integer, none =>
    if c == '.' then ([], .number { n with part := .point })
    else if isMark then ([], .number { n with part := .exponentMark })
    else complete
  | .point, some d | .fraction, some d => ([], .number (n.addDigit .fraction d))
  | .point, none => broken
  | .fraction, none =>
    if isMark then ([], .number { n with part := .exponentMark }) else complete
  | .exponentMark, some d | .exponentSign, some d =>
    ([], .number { n with part := .exponent, exponent := d })
  | .exponentMark, none =>
    if c == '+' then ([], .number { n with part := .exponentSign })
    else if c == '-' then
      ([], .number { n with part := .exponentSign, negativeExponent := true })
    else broken
  | .exponentSign, none => broken
  | .exponent, some d => ([], .number { n with exponent := n.exponent * 10 + d })
  | .exponent, none => complete

namespace TextScan

/-- Take in a character. -/
def push (t : TextScan) (c : Char) : TextScan :=
  { t with part := .plain, chars := c :: t.chars }

/-- Note that a surrogate has no partner. -/
def unpair (t : TextScan) : TextScan := { t with part := .plain, unpaired := true }

/-- Break off. -/
def broken (t : TextScan) (fault : Fault) : Token :=
  .brokenText (if t.unpaired then .malformed else fault) fault

/-- The text, if every surrogate has its partner. -/
def value (t : TextScan) : Except Fault String :=
  if t.unpaired then .error .malformed else .ok (String.ofList t.chars.reverse)

/-- Continue with a character that is not part of an escape. -/
def nextPlain (t : TextScan) (c : Char) : Step :=
  if c == '"' then ([.text t.value], .between)
  else if c == '\\' then ([], .text { t with part := .escape none })
  else if c < ' ' then ([t.broken .malformed], .stopped)
  else ([], .text (t.push c))

/-- Take in a code unit, which may complete a pair of surrogates. -/
def addCode (t : TextScan) (surrogate : Option Nat) (code : Nat) : TextScan :=
  match surrogate with
  | some s =>
    if isTrailing code then t.push (Char.ofNat (0x10000 + (s - 0xD800) * 0x400 + (code - 0xDC00)))
    else t.unpair
  | none =>
    if isLeading code then { t with part := .leading code }
    else if isTrailing code then t.unpair
    else t.push (Char.ofNat code)

/-- Continue a text. An escape `\u` takes four bytes before they are looked at. -/
def next (t : TextScan) (c : Char) : Step :=
  match t.part with
  | .plain => t.nextPlain c
  | .leading s =>
    if c == '\\' then ([], .text { t with part := .escape (some s) }) else t.unpair.nextPlain c
  | .escape surrogate =>
    if c == 'u' then ([], .text { t with part := .hex surrogate 0 (some 0) })
    else match escaped? c with
      | some e =>
        let t := if surrogate.isSome then t.unpair else t
        ([], .text (t.push e))
      | none => ([t.broken .malformed], .stopped)
  | .hex surrogate bytes code =>
    let bytes := bytes + c.utf8Size
    let code := code.bind fun n ↦ (hexDigit? c).map fun d ↦ 16 * n + d
    if bytes < 4 then ([], .text { t with part := .hex surrogate bytes code })
    else match code with
      | some n => ([], .text (t.addCode surrogate n))
      | none => ([t.broken .malformed], .stopped)

end TextScan

/-- Continue with a character. -/
def Scan.next (state : Scan) (c : Char) : Step :=
  match state with
  | .between => begin c
  | .literal [] token _ => let (more, state) := begin c; (token :: more, state)
  | .literal [m] token isNull =>
    if c == m then ([token], .between) else ([.brokenLiteral isNull .malformed], .stopped)
  | .literal (m :: missing) token isNull =>
    if c == m then ([], .literal missing token isNull)
    else ([.brokenLiteral isNull .malformed], .stopped)
  | .number n => n.next c
  | .text t => t.next c
  | .stopped => ([], .stopped)

/-- The last token, if the text ends here. -/
def Scan.finish : Scan → List Token
  | .between | .stopped => []
  | .literal _ _ isNull => [.brokenLiteral isNull .ended]
  | .text t => [t.broken .ended]
  | .number n =>
    match n.part with
    | .minus | .point | .exponentMark | .exponentSign => [.brokenNumber .ended]
    | .zero | .integer | .fraction | .exponent => [.number n.finite]

/-- The tokens of the rest of a text, behind those already found, the last one first. -/
def tokensFrom (state : Scan) (found : List Token) : List Char → List Token
  | [] => found.reverse ++ state.finish
  | c :: cs =>
    let (more, state) := state.next c
    tokensFrom state (more.reverse ++ found) cs

/-- The tokens of a text. -/
def tokens (cs : List Char) : List Token := tokensFrom .between [] cs

end BuiltinAtlas.Json
