import BuiltinAtlas.Dictionary.Basic
import BuiltinAtlas.Json.Tree

/-!
# Reading JSON

A `Reader` wants a value of some type from a JSON tree. Of several faults it reports the one that
comes first in the text. Records may be written with the names of their fields, in any order and
with other fields between them, or as an array of their fields in a fixed order.
-/

namespace BuiltinAtlas.Json

/-- A way to read values of a type. -/
abbrev Reader (α : Type) := Tree → Except Fault α

/-- What is wrong with a value of another shape than the wanted one. -/
def mismatch : Tree → Fault
  | .text (.error f) => f
  | .number false => .malformed
  | .broken b => b.strict
  | _ => .misshapen

/-- Succeed at a regular ending. -/
def finish {α : Type} (ending : Ending) (value : α) : Except Fault α :=
  match ending.strict with
  | none => .ok value
  | some f => .error f

/-- Pass over a value. -/
def ignore (t : Tree) : Except Fault Unit :=
  match t.fault? with
  | none => .ok ()
  | some f => .error f

/-- Read a text. -/
def text : Reader String
  | .text value => value
  | t => .error (mismatch t)

/-- Read a truth value. -/
def bool : Reader Bool
  | .bool b => .ok b
  | t => .error (mismatch t)

/-- Read a value that may be null. -/
def option {α : Type} (r : Reader α) : Reader (Option α)
  | .null => .ok none
  | .broken (.literal true f) => .error f
  | t => (r t).map some

/-- Read an array. -/
def list {α : Type} (r : Reader α) : Reader (List α)
  | .array items ending => do finish ending (← items.mapM r)
  | t => .error (mismatch t)

/-- Read members into a dictionary, which may have some already. -/
def readMembers {α : Type} (r : Reader α) (d : Dictionary α) :
    List (Key × Tree) → Except Fault (Dictionary α)
  | [] => .ok d
  | (key, t) :: rest => do
    let key ← key
    let value ← r t
    readMembers r (d.insert key value) rest

/-- Read an object with arbitrary keys. The last value of a key counts. -/
def dictionary {α : Type} (r : Reader α) : Reader (Dictionary α)
  | .object members ending => do finish ending (← readMembers r .empty members)
  | t => .error (mismatch t)

/-- A field of a record. Reading sets it in the record. -/
structure Field (σ : Type) where
  name : String
  set : Tree → σ → Except Fault σ
  /-- Whether the field may be left out. -/
  optional : Bool

/-- A field that is read by `r` and stored by `put`. -/
def Field.of {σ α : Type} (name : String) (r : Reader α) (put : α → σ → σ)
    (optional : Bool) : Field σ where
  name := name
  set t s := (r t).map fun value ↦ put value s
  optional := optional

/-- Read the members of a record, some fields of which have been seen. -/
def readNamed {σ : Type} (fields : List (Field σ)) (s : σ) (seen : List String) :
    List (Key × Tree) → Except Fault (σ × List String)
  | [] => .ok (s, seen)
  | (key, t) :: rest => do
    let key ← key
    match fields.find? (·.name == key) with
    | none =>
      ignore t
      readNamed fields s seen rest
    | some field =>
      if seen.contains key then .error .misshapen
      else readNamed fields (← field.set t s) (key :: seen) rest

/-- Read the items of a record. -/
def readPositional {σ : Type} (ending : Ending) (s : σ) :
    List (Field σ) → List Tree → Except Fault σ
  | [], [] => finish ending s
  | [], _ :: _ => .error .malformed
  | fields, [] => do
    let s ← finish ending s
    if fields.all (·.optional) then .ok s else .error .misshapen
  | field :: fields, t :: rest => do readPositional ending (← field.set t s) fields rest

/-- Read a record. Fields that are left out keep the values they have in `blank`. -/
def record {σ : Type} (fields : List (Field σ)) (blank : σ) : Reader σ
  | .object members ending => do
    let (s, seen) ← readNamed fields blank [] members
    let s ← finish ending s
    if fields.all fun f ↦ f.optional || seen.contains f.name then .ok s else .error .misshapen
  | .array items ending => readPositional ending blank fields items
  | t => .error (mismatch t)

/-- A variant of a choice: its tag, and how to read its content. -/
abbrev Variant (α : Type) := String × Reader α

/-- Read an object whose only key tells a variant. -/
def choice {α : Type} (variants : List (Variant α)) : Reader α
  | .object [] ending =>
    match ending with
    | .missing | .missingKey => .error .ended
    | .oddKey f | .brokenKey f _ => .error f
    | .closed | .unexpected => .error .malformed
  | .object ((key, t) :: others) ending => do
    let key ← key
    match variants.find? (·.1 == key) with
    | none => .error .misshapen
    | some (_, r) =>
      let value ← r t
      match others, ending with
      | [], .closed => .ok value
      | [], .missing => .error .ended
      | _, _ => .error .malformed
  | .text value => do
    let _ ← value
    .error .misshapen
  | .broken .missing => .error .ended
  | .broken (.text f _) => .error f
  | _ => .error .malformed

/-- Read a whole text. -/
def Reader.run {α : Type} (r : Reader α) (s : String) : Except Fault α := do
  let (t, rest) := Tree.ofTokens (tokens s.toList)
  let value ← r t
  if rest.isEmpty then .ok value else .error .malformed

end BuiltinAtlas.Json
