import BuiltinAtlas.Json.Tree
import BuiltinAtlas.Proofs.Json.Form

/-!
# Written values are trees

`Yields form P` says that whatever is written in a form is read as a tree with a property. The
tokens of what is written are kept apart from the two ways to get to and from them: cutting up what
is written, and building the tree. `yields_array` and `yields_object` say what arrays and objects
are read as, and `yields_value` says that any value is read as a tree without a fault.
-/

namespace BuiltinAtlas.Json

variable {ι : Type}

/-! ### Cutting up what is written -/

/-- Some characters are cut up into tokens, whatever stands around them. -/
def CutsInto (cs : List Char) (ts : List Token) : Prop :=
  ∀ found rest,
    tokensFrom .between found (cs ++ rest) = tokensFrom .between (ts.reverse ++ found) rest

/-- Some characters are cut up into tokens where a delimiter follows, as numbers are. -/
def CutsBefore (cs : List Char) (ts : List Token) : Prop :=
  ∀ found rest, Delimited rest →
    tokensFrom .between found (cs ++ rest) = tokensFrom .between (ts.reverse ++ found) rest

private theorem delimited_cons {c : Char} (h : c ∈ [' ', '\t', '\n', '\r', ',', ']', '}'])
    (rest : List Char) : Delimited (c :: rest) := by
  rintro _ ⟨⟩
  exact h

/-- White space delimits values, or what stands behind it does. -/
theorem Blank.delimited {cs rest : List Char} (blank : Blank cs) (h : Delimited rest) :
    Delimited (cs ++ rest) := by
  cases cs with
  | nil => exact h
  | cons c cs =>
    have white : c ∈ [' ', '\t', '\n', '\r'] := blank c List.mem_cons_self
    exact delimited_cons (List.mem_append_left [',', ']', '}'] white) _

namespace CutsInto

variable {cs ds : List Char} {ts us : List Token}

/-- What stands side by side is cut up piece by piece. -/
theorem append (h : CutsInto cs ts) (k : CutsInto ds us) : CutsInto (cs ++ ds) (ts ++ us) := by
  intro found rest
  rw [List.append_assoc, h, k, List.reverse_append, List.append_assoc]

private theorem append_before (h : CutsInto cs ts) (k : CutsBefore ds us) :
    CutsBefore (cs ++ ds) (ts ++ us) := by
  intro found rest delimited
  rw [List.append_assoc, h, k _ _ delimited, List.reverse_append, List.append_assoc]

/-- What needs no delimiter may have one. -/
theorem before (h : CutsInto cs ts) : CutsBefore cs ts := fun found rest _ ↦ h found rest

/-- White space is no token. -/
theorem blank (h : Blank cs) : CutsInto cs [] := h.tokensFrom

/-- A text in quotes is one token. -/
theorem text {s : String} (h : TextForm s cs) : CutsInto cs [.text (.ok s)] := h.tokensFrom

/-- A character that is a token by itself. -/
theorem single {c : Char} {token : Token} (h : begin c = ([token], .between)) :
    CutsInto [c] [token] := by
  intro found rest
  simp [tokensFrom, Scan.next, h]

end CutsInto

namespace CutsBefore

variable {cs ds : List Char} {ts us : List Token}

/-- What needs a delimiter is cut up before what begins with one. -/
theorem append (h : CutsBefore cs ts) (k : CutsInto ds us)
    (delimits : ∀ rest, Delimited (ds ++ rest)) : CutsInto (cs ++ ds) (ts ++ us) := by
  intro found rest
  rw [List.append_assoc, h _ _ (delimits rest), k, List.reverse_append, List.append_assoc]

/-- White space around a value is no token. -/
theorem padded {before after : List Char} (h : CutsBefore cs ts) (blankBefore : Blank before)
    (blankAfter : Blank after) : CutsBefore (before ++ (cs ++ after)) ts := by
  intro found rest delimited
  rw [List.append_assoc, List.append_assoc, blankBefore.tokensFrom,
    h _ _ (blankAfter.delimited delimited), blankAfter.tokensFrom]

end CutsBefore

/-! ### Brackets -/

/-- The tokens of items behind the first one. -/
def furtherItems (tss : List (List Token)) : List Token := tss.flatMap (.comma :: ·)

/-- The tokens of items in brackets. -/
def bracketTokens (opening closing : Token) : List (List Token) → List Token
  | [] => [opening, closing]
  | ts :: tss => opening :: (ts ++ (furtherItems tss ++ [closing]))

private theorem cutsInto_further {closing : Char} {token : Token}
    (closes : begin closing = ([token], .between)) (delimits : closing ∈ [']', '}'])
    {css : List (List Char)} {tss : List (List Token)} (h : List.Forall₂ CutsBefore css tss) :
    CutsInto (css.flatMap (',' :: ·) ++ [closing]) (furtherItems tss ++ [token]) ∧
      ∀ rest, Delimited ((css.flatMap (',' :: ·) ++ [closing]) ++ rest) := by
  induction h with
  | nil =>
    refine ⟨.single closes, delimited_cons ?_⟩
    exact List.mem_append_right [' ', '\t', '\n', '\r', ','] delimits
  | @cons cs ts css tss first _ ih =>
    refine ⟨?_, fun rest ↦ delimited_cons (by decide) _⟩
    have comma : CutsInto [','] [.comma] := .single rfl
    rw [furtherItems, List.flatMap_cons, List.flatMap_cons, List.append_assoc, List.append_assoc]
    exact comma.append (first.append ih.1 ih.2)

private theorem exists_cutsBefore_slots {ρ : Type} {form : ι → Form} {tokens : ρ → List Token}
    {Q : ι → ρ → Prop} {xs : List ι} {css : List (List Char)}
    (h : ∀ x ∈ xs, ∀ cs, form x cs → ∃ r, CutsBefore cs (tokens r) ∧ Q x r)
    (slots : List.Forall₂ (fun x ↦ Padded (form x)) xs css) :
    ∃ rs, List.Forall₂ CutsBefore css (rs.map tokens) ∧ List.Forall₂ Q xs rs := by
  induction slots with
  | nil => exact ⟨[], .nil, .nil⟩
  | @cons x cs xs css first _ ih =>
    obtain ⟨h₁, h₂⟩ := List.forall_mem_cons.mp h
    obtain ⟨before, inner, after, blankBefore, form, blankAfter, rfl⟩ := first
    obtain ⟨r, cuts, hr⟩ := h₁ inner form
    obtain ⟨rs, cutsOthers, hrs⟩ := ih h₂
    exact ⟨r :: rs, .cons (cuts.padded blankBefore blankAfter) cutsOthers, .cons hr hrs⟩

private theorem Bracketed.exists_cutsInto {ρ : Type} {form : ι → Form} {tokens : ρ → List Token}
    {Q : ι → ρ → Prop} {opening closing : Char} {first last : Token}
    (opens : begin opening = ([first], .between)) (closes : begin closing = ([last], .between))
    (delimits : closing ∈ [']', '}']) {xs : List ι} {cs : List Char}
    (h : ∀ x ∈ xs, ∀ cs, form x cs → ∃ r, CutsBefore cs (tokens r) ∧ Q x r)
    (brackets : Bracketed opening closing form xs cs) :
    ∃ rs, CutsInto cs (bracketTokens first last (rs.map tokens)) ∧ List.Forall₂ Q xs rs := by
  cases brackets with
  | empty blank =>
    exact ⟨[], (CutsInto.single opens).append ((CutsInto.blank blank).append (.single closes)),
      .nil⟩
  | slots padded others =>
    obtain ⟨rs, cuts, hrs⟩ := exists_cutsBefore_slots h (.cons padded others)
    cases hrs with
    | @cons _ r _ rs hr hrs =>
      obtain ⟨cutsFirst, cutsOthers⟩ := List.forall₂_cons.mp cuts
      obtain ⟨cutsRest, delimited⟩ := cutsInto_further closes delimits cutsOthers
      refine ⟨r :: rs, ?_, .cons hr hrs⟩
      exact (CutsInto.single opens).append (cutsFirst.append cutsRest delimited)

/-! ### Building trees -/

/-- Go on with the tokens that are left. -/
def Progress.resume (p : Progress) (rest : List Token) : Tree × List Token :=
  match p with
  | .next frames expectation => build frames expectation rest
  | .complete t => (t, rest)
  | .broken t => (t, [])

private theorem build_cons (frames : List Frame) (expectation : Expectation) (token : Token)
    (rest : List Token) :
    build frames expectation (token :: rest) = (advance frames expectation token).resume rest := by
  rw [build]
  cases advance frames expectation token <;> rfl

/-- Some tokens are built into a tree wherever a value may stand. Their first one begins a value,
so that an array can begin with them too. -/
structure BuildsInto (ts : List Token) (t : Tree) : Prop where
  asValue : ∀ frames rest, build frames .value (ts ++ rest) = (settle t frames).resume rest
  asFirst : ∀ frames rest,
    build frames .firstItem (ts ++ rest) = build (.array [] :: frames) .value (ts ++ rest)

/-- A token that is a value by itself. -/
theorem BuildsInto.single {token : Token} {t : Tree}
    (h : ∀ frames, beginValue frames token = settle t frames) (notClosing : token ≠ .closeBracket) :
    BuildsInto [token] t where
  asValue frames rest := by
    rw [List.singleton_append, build_cons, advance, h]
  asFirst frames rest := by
    rw [List.singleton_append, build_cons, build_cons]
    cases token with
    | closeBracket => exact absurd rfl notClosing
    | _ => rfl

/-- Some tokens with the tree that they are built into. -/
structure Built where
  tokens : List Token
  tree : Tree
  builds : BuildsInto tokens tree

private theorem build_furtherItems (items : List Built) (before : List Tree) (frames : List Frame)
    (rest : List Token) :
    build frames (.afterItem before)
        (furtherItems (items.map Built.tokens) ++ .closeBracket :: rest) =
      (settle (.array (before.reverse ++ items.map Built.tree) .closed) frames).resume rest := by
  induction items generalizing before with
  | nil =>
    rw [List.map_nil, furtherItems, List.flatMap_nil, List.nil_append, build_cons, List.map_nil,
      List.append_nil]
    rfl
  | cons item items ih =>
    have step := ih (item.tree :: before)
    rw [List.reverse_cons, List.append_assoc, List.singleton_append] at step
    rw [List.map_cons, List.map_cons, ← step, furtherItems, List.flatMap_cons, List.cons_append,
      List.cons_append, build_cons, List.append_assoc]
    exact item.builds.asValue (.array before :: frames) _

/-- Items in brackets are built into an array. -/
theorem BuildsInto.array (items : List Built) :
    BuildsInto (bracketTokens .openBracket .closeBracket (items.map Built.tokens))
      (.array (items.map Built.tree) .closed) := by
  cases items with
  | nil => exact ⟨fun _ _ ↦ rfl, fun _ _ ↦ rfl⟩
  | cons item items =>
    refine ⟨fun frames rest ↦ ?_, fun _ _ ↦ rfl⟩
    rw [List.map_cons, bracketTokens, List.cons_append, build_cons, List.append_assoc,
      List.append_assoc]
    change build frames .firstItem _ = _
    rw [item.builds.asFirst, item.builds.asValue]
    exact build_furtherItems items [item.tree] frames rest

/-- The tokens of a member. -/
def memberTokens (m : String × Built) : List Token := .text (.ok m.1) :: .colon :: m.2.tokens

/-- The member that is built from its tokens. -/
def memberTree (m : String × Built) : Key × Tree := (.ok m.1, m.2.tree)

private theorem build_colon (m : String × Built) (before : List (Key × Tree)) (frames : List Frame)
    (rest : List Token) :
    build frames (.colon before (.ok m.1)) (.colon :: (m.2.tokens ++ rest)) =
      build frames (.afterMember (memberTree m :: before)) rest := by
  rw [build_cons]
  exact m.2.builds.asValue (.object before (.ok m.1) :: frames) rest

private theorem build_furtherMembers (members : List (String × Built)) (before : List (Key × Tree))
    (frames : List Frame) (rest : List Token) :
    build frames (.afterMember before)
        (furtherItems (members.map memberTokens) ++ .closeBrace :: rest) =
      (settle (.object (before.reverse ++ members.map memberTree) .closed) frames).resume rest := by
  induction members generalizing before with
  | nil =>
    rw [List.map_nil, furtherItems, List.flatMap_nil, List.nil_append, build_cons, List.map_nil,
      List.append_nil]
    rfl
  | cons m members ih =>
    have step := ih (memberTree m :: before)
    rw [List.reverse_cons, List.append_assoc, List.singleton_append] at step
    rw [List.map_cons, List.map_cons, ← step, furtherItems, List.flatMap_cons, memberTokens]
    simp only [List.cons_append, List.append_assoc]
    rw [build_cons]
    change build frames (.nextKey before) _ = _
    rw [build_cons]
    exact build_colon m before frames _

/-- Members in braces are built into an object. -/
theorem BuildsInto.object (members : List (String × Built)) :
    BuildsInto (bracketTokens .openBrace .closeBrace (members.map memberTokens))
      (.object (members.map memberTree) .closed) := by
  cases members with
  | nil => exact ⟨fun _ _ ↦ rfl, fun _ _ ↦ rfl⟩
  | cons m members =>
    refine ⟨fun frames rest ↦ ?_, fun _ _ ↦ rfl⟩
    rw [List.map_cons, bracketTokens, memberTokens]
    simp only [List.cons_append, List.append_assoc]
    rw [build_cons]
    change build frames .firstKey _ = _
    rw [build_cons]
    change build frames (.colon [] (.ok m.1)) _ = _
    rw [build_colon m]
    exact build_furtherMembers members [memberTree m] frames rest

/-! ### Reading trees -/

/-- Whatever is written in a form is read as a tree with a property. -/
def Yields (form : Form) (P : Tree → Prop) : Prop :=
  ∀ cs, form cs → ∃ b : Built, CutsBefore cs b.tokens ∧ P b.tree

private theorem CutsBefore.exists_built {cs : List Char} {token : Token} {t : Tree}
    (cuts : CutsBefore cs [token]) (begins : ∀ frames, beginValue frames token = settle t frames)
    (notClosing : token ≠ .closeBracket) :
    ∃ b : Built, CutsBefore cs b.tokens ∧ b.tree = t :=
  ⟨⟨[token], t, .single begins notClosing⟩, cuts, rfl⟩

/-- A tree with a property has every weaker one. -/
theorem Yields.imp {form : Form} {P Q : Tree → Prop} (h : Yields form P) (sub : ∀ t, P t → Q t) :
    Yields form Q := by
  intro cs written
  obtain ⟨b, cuts, read⟩ := h cs written
  exact ⟨b, cuts, sub _ read⟩

/-- White space around a value is passed over. -/
theorem Yields.padded {form : Form} {P : Tree → Prop} (h : Yields form P) :
    Yields (Padded form) P := by
  rintro _ ⟨before, inner, after, blankBefore, written, blankAfter, rfl⟩
  obtain ⟨b, cuts, read⟩ := h inner written
  exact ⟨b, cuts.padded blankBefore blankAfter, read⟩

/-- A text is read as itself. -/
theorem yields_text (s : String) : Yields (TextForm s) (· = .text (.ok s)) := fun _ form ↦
  (CutsInto.text form).before.exists_built (fun _ ↦ rfl) (by simp)

/-- An array is read as the array of what its items are read as. -/
theorem yields_array {form : ι → Form} {P : ι → Tree → Prop} {items : List ι}
    (h : ∀ x ∈ items, Yields (form x) (P x)) :
    Yields (ArrayForm form items) fun t ↦
      ∃ ts, List.Forall₂ P items ts ∧ t = .array ts .closed := by
  intro cs brackets
  have opens : begin '[' = ([.openBracket], .between) := rfl
  have closes : begin ']' = ([.closeBracket], .between) := rfl
  obtain ⟨bs, cuts, read⟩ := brackets.exists_cutsInto opens closes (by decide) h
  refine ⟨⟨_, _, .array bs⟩, cuts.before, bs.map Built.tree, ?_, rfl⟩
  rwa [List.forall₂_map_right_iff]

/-- An object is read as the object of what its members are read as. -/
theorem yields_object {form : ι → Form} {P : String × ι → Tree → Prop} {members : List (String × ι)}
    (h : ∀ m ∈ members, Yields (form m.2) (P m)) :
    Yields (ObjectForm form members) fun t ↦
      ∃ ns : List (Key × Tree), List.Forall₂ (fun m n ↦ n.1 = .ok m.1 ∧ P m n.2) members ns ∧
        t = .object ns .closed := by
  intro cs brackets
  have each : ∀ m ∈ members, ∀ cs, MemberForm m.1 (form m.2) cs →
      ∃ b : String × Built, CutsBefore cs (memberTokens b) ∧ b.1 = m.1 ∧ P m b.2.tree := by
    rintro m mem _ ⟨name, blank, value, isName, isBlank, written, rfl⟩
    obtain ⟨b, cuts, read⟩ := (h m mem).padded value written
    refine ⟨(m.1, b), ?_, rfl, read⟩
    have colon : CutsInto [':'] [.colon] := .single rfl
    exact (CutsInto.text isName).append_before
      ((CutsInto.blank isBlank).append_before (colon.append_before cuts))
  have opens : begin '{' = ([.openBrace], .between) := rfl
  have closes : begin '}' = ([.closeBrace], .between) := rfl
  obtain ⟨bs, cuts, read⟩ := brackets.exists_cutsInto opens closes (by decide) each
  refine ⟨⟨_, _, .object bs⟩, cuts.before, bs.map memberTree, ?_, rfl⟩
  rw [List.forall₂_map_right_iff]
  exact read.imp fun m b ⟨name, value⟩ ↦ ⟨congrArg Except.ok name, value⟩

/-- What stands for nothing is read as that. -/
theorem yields_null : Yields (Eq "null".toList) (· = .null) := by
  rintro _ rfl
  have cuts : CutsInto "null".toList [.null] :=
    fun _ _ ↦ by simp [tokensFrom, Scan.next, begin, isSpace]
  exact cuts.before.exists_built (fun _ ↦ rfl) (by simp)

/-- A truth value is read as itself. -/
theorem yields_bool (b : Bool) : Yields (BoolForm b) (· = .bool b) := by
  intro cs written
  have cuts : CutsInto cs [.bool b] := by
    cases b with
    | true =>
      cases written
      exact fun _ _ ↦ by simp [tokensFrom, Scan.next, begin, isSpace]
    | false =>
      cases written
      exact fun _ _ ↦ by simp [tokensFrom, Scan.next, begin, isSpace]
  exact cuts.before.exists_built (fun _ ↦ rfl) (by simp)

private theorem yields_number : Yields NumberForm (∃ finite, · = .number finite) := by
  intro cs form
  obtain ⟨finite, cuts⟩ := form.tokensFrom
  have number : CutsBefore cs [.number finite] := cuts
  obtain ⟨b, cuts, read⟩ := number.exists_built (fun _ ↦ rfl) (by simp)
  exact ⟨b, cuts, finite, read⟩

/-! ### Values without a fault -/

/-- A tree has no fault that does not depend on what is wanted. -/
def Tree.Sound (t : Tree) : Prop := t.fault? = none

private theorem faultOfItems?_eq_none {items : List Tree} (h : ∀ t ∈ items, t.Sound) :
    faultOfItems? items = none := by
  induction items with
  | nil => rfl
  | cons t items ih =>
    obtain ⟨first, others⟩ := List.forall_mem_cons.mp h
    rw [faultOfItems?, first, ih others]
    rfl

private theorem faultOfMembers?_eq_none {members : List (Key × Tree)}
    (h : ∀ m ∈ members, m.2.Sound) : faultOfMembers? members = none := by
  induction members with
  | nil => rfl
  | cons m members ih =>
    obtain ⟨first, others⟩ := List.forall_mem_cons.mp h
    rw [faultOfMembers?, first, ih others]
    rfl

/-- Any value is read as a tree without a fault. -/
theorem yields_value : Yields ValueForm Tree.Sound := by
  intro cs form
  induction form with
  | null => exact yields_null.imp (by rintro _ rfl; rfl) _ rfl
  | true => exact (yields_bool true).imp (by rintro _ rfl; rfl) _ rfl
  | false => exact (yields_bool false).imp (by rintro _ rfl; rfl) _ rfl
  | number form => exact yields_number.imp (by rintro _ ⟨finite, rfl⟩; rfl) _ form
  | @text s _ form => exact (yields_text s).imp (by rintro _ rfl; rfl) _ form
  | @array items _ _ form ih =>
    have each : ∀ v ∈ items, Yields (Eq v) Tree.Sound := by
      rintro v mem _ rfl
      exact ih v mem
    refine (yields_array each).imp ?_ _ form
    rintro _ ⟨ts, read, rfl⟩
    have sound : faultOfItems? ts = none := faultOfItems?_eq_none fun t mem ↦ by
      obtain ⟨_, -, sound⟩ := exists_mem_left read t mem
      exact sound
    simp [Tree.Sound, Tree.fault?, sound, Ending.loose, Ending.strict]
  | @object members _ _ form ih =>
    have each : ∀ m ∈ members, Yields (Eq m.2) Tree.Sound := by
      rintro m mem _ rfl
      exact ih m mem
    refine (yields_object each).imp ?_ _ form
    rintro _ ⟨ns, read, rfl⟩
    have sound : faultOfMembers? ns = none := faultOfMembers?_eq_none fun n mem ↦ by
      obtain ⟨_, -, -, sound⟩ := exists_mem_left read n mem
      exact sound
    simp [Tree.Sound, Tree.fault?, sound, Ending.loose, Ending.strict]

/-- A whole text is read as a tree, and nothing is left. -/
theorem Yields.exists_ofTokens {form : Form} {P : Tree → Prop} (h : Yields form P) {cs : List Char}
    (written : form cs) : ∃ t, Tree.ofTokens (tokens cs) = (t, []) ∧ P t := by
  obtain ⟨b, cuts, read⟩ := h cs written
  have ended : Delimited [] := fun _ none ↦ by cases none
  have cut := cuts [] [] ended
  have same : tokens cs = b.tokens := by
    rw [tokens, ← List.append_nil cs, cut, tokensFrom, List.append_nil, List.reverse_reverse]
    exact List.append_nil b.tokens
  have built := b.builds.asValue [] []
  rw [List.append_nil] at built
  refine ⟨b.tree, ?_, read⟩
  rw [same, Tree.ofTokens, built]
  rfl

end BuiltinAtlas.Json
