import BuiltinAtlas.Json.Token

/-!
# JSON trees

`Tree.ofTokens` arranges tokens as a value. Where the tokens break off or no longer fit, the tree
says so at that very place, so that who walks through the tree in order meets the faults of the
text in order: a reader can find that a value has the wrong shape before it comes to a fault that
lies behind it.
-/

namespace BuiltinAtlas.Json

/-- What stands where a value should be. -/
inductive Break where
  /-- Nothing. -/
  | missing
  /-- Something no value begins with. -/
  | unexpected
  /-- A literal with a wrong end, and whether it begins like `null`. -/
  | literal (isNull : Bool) (fault : Fault)
  | number (fault : Fault)
  | text (strict loose : Fault)
  deriving DecidableEq

/-- How the items of an array or the members of an object end. -/
inductive Ending where
  | closed
  /-- The text ends behind an item or member, or where the first one may be. -/
  | missing
  /-- The text ends behind a comma. -/
  | missingKey
  /-- Neither a comma nor the right bracket follows. -/
  | unexpected
  /-- Another value stands in the place of a key. `asText` is what is wrong with it as a text. -/
  | oddKey (asText : Fault)
  /-- A key breaks off. -/
  | brokenKey (strict loose : Fault)
  deriving DecidableEq

/-- A value, as far as it could be read. -/
inductive Tree where
  | null
  | bool (value : Bool)
  | number (finite : Bool)
  | text (value : Except Fault String)
  | array (items : List Tree) (ending : Ending)
  | object (members : List (Except Fault String × Tree)) (ending : Ending)
  | broken (what : Break)

/-- A key. -/
abbrev Key := Except Fault String

/-- The fault of a break for a reader that wants the value. -/
def Break.strict : Break → Fault
  | .missing => .ended
  | .unexpected => .malformed
  | .literal _ f | .number f => f
  | .text f _ => f

/-- The fault of a break for a reader that passes over the value. -/
def Break.loose : Break → Fault
  | .missing => .ended
  | .unexpected | .number _ => .malformed
  | .literal _ f => f
  | .text _ f => f

/-- The fault of an ending for a reader that wants the keys. -/
def Ending.strict : Ending → Option Fault
  | .closed => none
  | .missing | .missingKey => some .ended
  | .unexpected | .oddKey _ => some .malformed
  | .brokenKey f _ => some f

/-- The fault of an ending for a reader that passes over the value. -/
def Ending.loose : Ending → Option Fault
  | .brokenKey _ f => some f
  | ending => ending.strict

mutual

/-- The first fault that does not depend on what the reader wants. Unpaired surrogates are none. -/
def Tree.fault? : Tree → Option Fault
  | .null | .bool _ | .number _ | .text _ => none
  | .array items ending => faultOfItems? items <|> ending.loose
  | .object members ending => faultOfMembers? members <|> ending.loose
  | .broken b => some b.loose

/-- The first fault of some items. -/
def faultOfItems? : List Tree → Option Fault
  | [] => none
  | t :: rest => t.fault? <|> faultOfItems? rest

/-- The first fault of some members. -/
def faultOfMembers? : List (Key × Tree) → Option Fault
  | [] => none
  | (_, t) :: rest => t.fault? <|> faultOfMembers? rest

end

/-- A value that is being read, outside the one that is read now. The last item or member comes
first. -/
inductive Frame where
  | array (items : List Tree)
  | object (members : List (Key × Tree)) (key : Key)

/-- What comes next. -/
inductive Expectation where
  | value
  /-- The first item, or the bracket. -/
  | firstItem
  /-- A comma or the bracket. -/
  | afterItem (items : List Tree)
  /-- The first key, or the brace. -/
  | firstKey
  /-- A key, behind a comma. -/
  | nextKey (members : List (Key × Tree))
  | colon (members : List (Key × Tree)) (key : Key)
  /-- A comma or the brace. -/
  | afterMember (members : List (Key × Tree))

/-- What a token leads to. -/
inductive Progress where
  | next (frames : List Frame) (expectation : Expectation)
  /-- The value is complete. -/
  | complete (tree : Tree)
  /-- The value breaks off. -/
  | broken (tree : Tree)

/-- Put a complete value into the value around it. -/
def settle (t : Tree) : List Frame → Progress
  | [] => .complete t
  | .array items :: frames => .next frames (.afterItem (t :: items))
  | .object members key :: frames => .next frames (.afterMember ((key, t) :: members))

/-- Put a value that breaks off into all values around it. -/
def unwind (t : Tree) : List Frame → Tree
  | [] => t
  | .array items :: frames => unwind (.array (t :: items).reverse .missing) frames
  | .object members key :: frames =>
    unwind (.object ((key, t) :: members).reverse .missing) frames

/-- Read a token that should begin a value. -/
def beginValue (frames : List Frame) : Token → Progress
  | .null => settle .null frames
  | .bool b => settle (.bool b) frames
  | .number finite => settle (.number finite) frames
  | .text value => settle (.text value) frames
  | .openBracket => .next frames .firstItem
  | .openBrace => .next frames .firstKey
  | .brokenLiteral n f => .broken (unwind (.broken (.literal n f)) frames)
  | .brokenNumber f => .broken (unwind (.broken (.number f)) frames)
  | .brokenText s l => .broken (unwind (.broken (.text s l)) frames)
  | .closeBrace | .closeBracket | .comma | .colon | .stray =>
    .broken (unwind (.broken .unexpected) frames)

/-- What is wrong with a token as a text. -/
def faultAsText : Token → Fault
  | .null | .bool _ | .number true | .openBracket | .openBrace => .misshapen
  | .brokenLiteral _ f | .brokenNumber f | .brokenText f _ => f
  | .text _ | .number false | .closeBrace | .closeBracket | .comma | .colon | .stray => .malformed

/-- Read a token that should be a key. -/
def beginMember (frames : List Frame) (members : List (Key × Tree)) : Token → Progress
  | .text key => .next frames (.colon members key)
  | .brokenText s l =>
    .broken (unwind (.object members.reverse (.brokenKey s l)) frames)
  | token => .broken (unwind (.object members.reverse (.oddKey (faultAsText token))) frames)

/-- Read a token. -/
def advance (frames : List Frame) (expectation : Expectation) (token : Token) : Progress :=
  match expectation with
  | .value => beginValue frames token
  | .firstItem =>
    match token with
    | .closeBracket => settle (.array [] .closed) frames
    | token => beginValue (.array [] :: frames) token
  | .afterItem items =>
    match token with
    | .comma => .next (.array items :: frames) .value
    | .closeBracket => settle (.array items.reverse .closed) frames
    | _ => .broken (unwind (.array items.reverse .unexpected) frames)
  | .firstKey =>
    match token with
    | .closeBrace => settle (.object [] .closed) frames
    | token => beginMember frames [] token
  | .nextKey members => beginMember frames members token
  | .colon members key =>
    match token with
    | .colon => .next (.object members key :: frames) .value
    | _ =>
      .broken (unwind (.object ((key, .broken .unexpected) :: members).reverse .missing) frames)
  | .afterMember members =>
    match token with
    | .comma => .next frames (.nextKey members)
    | .closeBrace => settle (.object members.reverse .closed) frames
    | _ => .broken (unwind (.object members.reverse .unexpected) frames)

/-- The value that is there when the tokens end. -/
def Expectation.cutOff : Expectation → Tree
  | .value => .broken .missing
  | .firstItem => .array [] .missing
  | .afterItem items => .array items.reverse .missing
  | .firstKey => .object [] .missing
  | .nextKey members => .object members.reverse .missingKey
  | .colon members key => .object ((key, .broken .missing) :: members).reverse .missing
  | .afterMember members => .object members.reverse .missing

/-- Read a value, and give back the tokens behind it. -/
def build (frames : List Frame) (expectation : Expectation) : List Token → Tree × List Token
  | [] => (unwind expectation.cutOff frames, [])
  | token :: rest =>
    match advance frames expectation token with
    | .next frames expectation => build frames expectation rest
    | .complete t => (t, rest)
    | .broken t => (t, [])

/-- The value that some tokens begin with, and the tokens behind it. -/
def Tree.ofTokens (ts : List Token) : Tree × List Token := build [] .value ts

end BuiltinAtlas.Json
